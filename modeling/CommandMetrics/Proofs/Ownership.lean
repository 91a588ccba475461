import CommandMetrics.Proofs.Registry
import Mathlib.Data.List.Find
import Mathlib.Data.List.TakeWhile
/-!
# Ownership — every name has one owner, who is there

A registry keeps who stands in it and who owns which name in two places.
They tell the same: a name is taken exactly if one of the sources claims
it, and by no more than one (`Registry.Owned`). Whoever enters without a
clash keeps this, and so does whoever leaves: what is left is the registry
without the sources that are gone and what they owned (`Owned.without`).
Series of a set that leave one after the other are gone up to the first that
is not there (`expel_eq`).
-/

namespace CommandMetrics.Registry

/-- **The two places tell the same**: sources stand once, a name is owned by
those that claim it, and it has one owner. -/
structure Owned (r : Registry) : Prop where
  nodup : r.sources.Nodup
  mem_owners_iff : ∀ name source, (name, source) ∈ r.owners ↔
    ∃ names, (source, names) ∈ r.entries ∧ name ∈ names
  unique : ∀ name source source', (name, source) ∈ r.owners → (name, source') ∈ r.owners →
    source = source'

variable {r after : Registry} {source other : Source} {names : List String}
variable {set : SetId} {s : Series} {added batch : List Series}

theorem owned_empty : empty.Owned where
  nodup := List.nodup_nil
  mem_owners_iff name source := by simp [empty]
  unique name source source' h := by simp [empty] at h

/-! ## Who stands in a registry -/

theorem mem_sources_iff : source ∈ r.sources ↔ ∃ names, (source, names) ∈ r.entries := by
  unfold sources
  simp

/-- A source that stands once claims its names once. -/
theorem eq_of_mem_entries {names' : List String} (hnodup : r.sources.Nodup)
    (h : (source, names) ∈ r.entries) (h' : (source, names') ∈ r.entries) : names = names' := by
  obtain ⟨i, hi, hentry⟩ := List.mem_iff_getElem.1 h
  obtain ⟨j, hj, hentry'⟩ := List.mem_iff_getElem.1 h'
  have hi' : i < r.sources.length := by simpa [sources] using hi
  have hj' : j < r.sources.length := by simpa [sources] using hj
  have hsame : r.sources[i] = r.sources[j] := by simp [sources, hentry, hentry']
  obtain rfl := (List.getElem_inj hnodup).1 hsame
  rw [hentry] at hentry'
  exact congrArg Prod.snd hentry'

@[simp] theorem sources_put : (r.put source names).sources = r.sources ++ [source] := by
  simp [put, sources]

theorem mem_entries_put {entry : Source × List String} :
    entry ∈ (r.put source names).entries ↔ entry ∈ r.entries ∨ entry = (source, names) := by
  simp [put]

theorem mem_entries_extend {entry : Source × List String} :
    entry ∈ (r.extend set added).entries ↔
      entry ∈ r.entries ∨ ∃ s ∈ added, entry = (.series set s, claims s) := by
  simp only [extend, List.mem_append, List.mem_map, eq_comm]

/-- **A registration that is accepted** puts a source at the end whose names
are free. -/
theorem register_eq_ok_iff : r.register source names = .ok after ↔
    r.clashes names = [] ∧ after = r.put source names := by
  rw [register_eq]
  split
  · rename_i hfree
    simp [hfree, eq_comm]
  · rename_i hclash
    simp [hclash]

/-- **Who stands in a registry can leave it.** -/
theorem exists_unregister (h : source ∈ r.sources) :
    ∃ after, r.unregister source = some after := by
  have hlookup : (r.entries.lookup source).isSome := by
    rw [Option.isSome_iff_ne_none]
    intro hnone
    obtain ⟨names, hentry⟩ := mem_sources_iff.1 h
    simpa using List.lookup_eq_none_iff.1 hnone _ hentry
  obtain ⟨names, hnames⟩ := Option.isSome_iff_exists.1 hlookup
  exact ⟨_, by rw [unregister, hnames, Option.map_some]⟩

theorem unregister_eq_none (h : source ∉ r.sources) : r.unregister source = none := by
  have hlookup : r.entries.lookup source = none := by
    refine List.lookup_eq_none_iff.2 fun entry hentry => bne_iff_ne.2 fun heq => h ?_
    rw [heq]
    exact List.mem_map_of_mem hentry
  rw [unregister, hlookup, Option.map_none]

/-- All others stay, with the names they claim. -/
theorem mem_entries_unregister (h : r.unregister source = some after)
    {entry : Source × List String} :
    entry ∈ after.entries ↔ entry ∈ r.entries ∧ entry.1 ≠ source := by
  obtain ⟨names, -, rfl⟩ := Option.map_eq_some_iff.1 h
  simp

theorem mem_sources_unregister_iff (h : r.unregister source = some after) :
    other ∈ after.sources ↔ other ∈ r.sources ∧ other ≠ source := by
  simp only [mem_sources_iff, mem_entries_unregister h, exists_and_right]

/-! ## What is left when sources are gone -/

/-- A registry without some of its sources and what they own. -/
def without (r : Registry) (gone : List Source) : Registry :=
  ⟨r.entries.filter fun entry => !gone.contains entry.1,
    r.owners.filter fun owner => !gone.contains owner.2⟩

variable {gone : List Source}

@[simp] theorem mem_entries_without {entry : Source × List String} :
    entry ∈ (r.without gone).entries ↔ entry ∈ r.entries ∧ entry.1 ∉ gone := by
  simp [without]

@[simp] theorem mem_owners_without {owner : String × Source} :
    owner ∈ (r.without gone).owners ↔ owner ∈ r.owners ∧ owner.2 ∉ gone := by
  simp [without]

@[simp] theorem mem_sources_without :
    source ∈ (r.without gone).sources ↔ source ∈ r.sources ∧ source ∉ gone := by
  simp only [mem_sources_iff, mem_entries_without, exists_and_right]

@[simp] theorem without_nil (r : Registry) : r.without [] = r := by
  have hentries : r.entries.filter (fun entry => !List.contains [] entry.1) = r.entries :=
    List.filter_eq_self.2 fun entry _ => rfl
  have howners : r.owners.filter (fun owner => !List.contains [] owner.2) = r.owners :=
    List.filter_eq_self.2 fun owner _ => rfl
  rw [without, hentries, howners]

/-- Sources that are gone in two parts are gone together. -/
theorem without_without (r : Registry) (gone more : List Source) :
    (r.without gone).without more = r.without (gone ++ more) := by
  simp [without, List.filter_filter, Bool.and_comm]

/-- **Those that are left own what they owned.** -/
theorem Owned.without (h : r.Owned) (gone : List Source) : (r.without gone).Owned where
  nodup := h.nodup.sublist (List.filter_sublist.map _)
  mem_owners_iff name source := by
    simp only [mem_owners_without, mem_entries_without, h.mem_owners_iff]
    constructor
    · rintro ⟨⟨names, hentry, hname⟩, hstays⟩
      exact ⟨names, ⟨hentry, hstays⟩, hname⟩
    · rintro ⟨names, ⟨hentry, hstays⟩, hname⟩
      exact ⟨⟨names, hentry, hname⟩, hstays⟩
  unique name source source' hsource hsource' :=
    h.unique name source source' (mem_owners_without.1 hsource).1 (mem_owners_without.1 hsource').1

/-- **The names of those that are gone are free.** -/
theorem Owned.isTaken_without (h : r.Owned) (hentry : (source, names) ∈ r.entries)
    (hgone : source ∈ gone) {name : String} (hname : name ∈ names) :
    (r.without gone).isTaken name = false := by
  rw [Bool.eq_false_iff]
  intro htaken
  obtain ⟨⟨_, owner⟩, howner, rfl⟩ := isTaken_iff.1 htaken
  obtain ⟨hold, hstays⟩ := mem_owners_without.1 howner
  -- the name has one owner, and that one is gone
  have hown := (h.mem_owners_iff _ source).2 ⟨names, hentry, hname⟩
  rw [h.unique _ owner source hold hown] at hstays
  exact hstays hgone

/-- Nothing is lost by those that are not there. -/
theorem Owned.without_of_notMem (h : r.Owned) (hgone : ∀ source ∈ gone, source ∉ r.sources) :
    r.without gone = r := by
  have hentries : r.entries.filter (fun entry => !gone.contains entry.1) = r.entries := by
    refine List.filter_eq_self.2 fun entry hentry => ?_
    have hstays : entry.1 ∉ gone := fun hmem => hgone _ hmem (List.mem_map_of_mem hentry)
    simpa using hstays
  have howners : r.owners.filter (fun owner => !gone.contains owner.2) = r.owners := by
    refine List.filter_eq_self.2 fun owner howner => ?_
    obtain ⟨names, hentry, -⟩ := (h.mem_owners_iff owner.1 owner.2).1 howner
    have hstays : owner.2 ∉ gone := fun hmem => hgone _ hmem (mem_sources_iff.2 ⟨names, hentry⟩)
    simpa using hstays
  rw [Registry.without, hentries, howners]

/-- **Whoever leaves** is gone with its names, and nobody else is. -/
theorem Owned.unregister_eq (h : r.Owned) (hthere : source ∈ r.sources) :
    r.unregister source = some (r.without [source]) := by
  obtain ⟨after, hafter⟩ := exists_unregister hthere
  obtain ⟨names, hlookup, rfl⟩ := Option.map_eq_some_iff.1 hafter
  obtain ⟨before, rest, heq, -⟩ := List.lookup_eq_some_iff.1 hlookup
  have hentry : (source, names) ∈ r.entries := by simp [heq]
  -- what it claims is what it owns
  have hname : ∀ owner ∈ r.owners, owner.1 ∈ names ↔ owner.2 = source := by
    intro owner howner
    constructor
    · intro hmem
      have hown := (h.mem_owners_iff owner.1 source).2 ⟨names, hentry, hmem⟩
      exact h.unique owner.1 owner.2 source howner hown
    · rintro rfl
      obtain ⟨names', hentry', hmem⟩ := (h.mem_owners_iff owner.1 owner.2).1 howner
      rwa [eq_of_mem_entries h.nodup hentry hentry']
  have howners : r.owners.filter (fun owner => !names.contains owner.1) =
      r.owners.filter fun owner => !List.contains [source] owner.2 := by
    refine List.filter_congr fun owner howner => ?_
    have hiff := hname owner howner
    by_cases hmem : owner.1 ∈ names <;> simp_all
  have hentries : r.entries.filter (fun entry => entry.1 != source) =
      r.entries.filter fun entry => !List.contains [source] entry.1 := by
    refine List.filter_congr fun entry _ => ?_
    by_cases heq : entry.1 = source <;> simp [heq]
  rw [hafter, howners, hentries]
  rfl

/-! ## Coming and going -/

/-- **Whoever enters without a clash** owns the names that it claims. -/
theorem Owned.put (h : r.Owned) (hnew : source ∉ r.sources) (hfree : r.clashes names = []) :
    (r.put source names).Owned where
  nodup := by
    rw [sources_put, List.nodup_append]
    refine ⟨h.nodup, by simp, fun a ha b hb heq => hnew ?_⟩
    rwa [← List.mem_singleton.1 hb, ← heq]
  mem_owners_iff name owner := by
    simp only [mem_entries_put, or_and_right, exists_or, ← h.mem_owners_iff]
    simp only [Registry.put, List.mem_append, List.mem_map, Prod.mk.injEq]
    refine or_congr_right ⟨?_, ?_⟩
    · rintro ⟨name, hname, rfl, rfl⟩
      exact ⟨names, ⟨rfl, rfl⟩, hname⟩
    · rintro ⟨names, ⟨rfl, rfl⟩, hname⟩
      exact ⟨name, hname, rfl, rfl⟩
  unique name a b ha hb := by
    have howner : ∀ {owner}, (name, owner) ∈ (r.put source names).owners →
        (name, owner) ∈ r.owners ∨ name ∈ names ∧ owner = source := fun {owner} howner => by
      simp only [Registry.put, List.mem_append, List.mem_map, Prod.mk.injEq] at howner
      rcases howner with hold | ⟨name, hname, rfl, rfl⟩
      · exact .inl hold
      · exact .inr ⟨hname, rfl⟩
    have hapart : ∀ {owner}, (name, owner) ∈ r.owners → name ∉ names := fun {owner} hold hname => by
      have hclear := clashes_eq_nil_iff.1 hfree name hname
      rw [isTaken_iff.2 ⟨_, hold, rfl⟩] at hclear
      cases hclear
    rcases howner ha with ha | ⟨hname, heq⟩ <;> rcases howner hb with hb | ⟨hname', heq'⟩
    · exact h.unique name a b ha hb
    · exact absurd hname' (hapart ha)
    · exact absurd hname (hapart hb)
    · rw [heq, heq']

/-- **The series of a set that enter together** own what they claim. By
induction on the batch from its end. -/
theorem Owned.extend (h : r.Owned) (hlacks : r.Lacks set) (hnodup : added.Nodup)
    (hfree : ∀ s ∈ added, r.clashes (claims s) = []) : (r.extend set added).Owned := by
  induction added using List.reverseRecOn with
  | nil => rwa [extend_nil]
  | append_singleton added s ih =>
    have hs : s ∉ added := fun hmem =>
      (List.nodup_append.1 hnodup).2.2 s hmem s List.mem_cons_self rfl
    rw [extend_concat]
    refine (ih (List.nodup_append.1 hnodup).1 fun s' hs' =>
      hfree s' (List.mem_append_left _ hs')).put ?_ ?_
    · rw [sources_extend, List.mem_append]
      rintro (hold | hadded)
      · exact hlacks s hold
      · obtain ⟨s', hs', heq⟩ := List.mem_map.1 hadded
        cases heq
        exact hs hs'
    · rw [clashes_extend hs]
      exact hfree s (by simp)

/-! ## A batch that leaves -/

/-- Whether a series of a set stands in a registry. -/
def holds (r : Registry) (set : SetId) (s : Series) : Bool := decide (.series set s ∈ r.sources)

/-- The series of a set that stand in a registry up to the first that does
not. -/
def present (r : Registry) (set : SetId) (batch : List Series) : List Series :=
  batch.takeWhile (r.holds set)

/-- The first series of a set that does not stand in a registry. -/
def firstMissing? (r : Registry) (set : SetId) (batch : List Series) : Option Series :=
  batch.find? fun s => !r.holds set s

/-- As long as two conditions agree the same is taken. -/
theorem takeWhile_congr {p q : Series → Bool} (h : ∀ s ∈ batch, p s = q s) :
    batch.takeWhile p = batch.takeWhile q := by
  induction batch with
  | nil => rfl
  | cons s batch ih =>
    obtain ⟨hs, hbatch⟩ := List.forall_mem_cons.1 h
    rw [List.takeWhile_cons, List.takeWhile_cons, hs, ih hbatch]

theorem holds_iff : r.holds set s = true ↔ .series set s ∈ r.sources := decide_eq_true_iff

/-- **What comes of a batch that leaves**: those up to the first that is not
there are gone, and that one is told. By induction on the batch. -/
theorem expel_eq (h : r.Owned) (hnodup : batch.Nodup) :
    expel set batch r =
      (r.without ((r.present set batch).map (.series set)), r.firstMissing? set batch) := by
  induction batch generalizing r with
  | nil => simp [expel, present, firstMissing?]
  | cons s batch ih =>
    obtain ⟨hnot, hnodup⟩ := List.nodup_cons.1 hnodup
    unfold present firstMissing? expel
    by_cases hs : .series set s ∈ r.sources
    · have hholds := holds_iff.2 hs
      rw [h.unregister_eq hs, List.takeWhile_cons_of_pos hholds,
        List.find?_cons_of_neg (by simp [hholds])]
      -- the others are there as they were
      have hsame : ∀ t ∈ batch, (r.without [.series set s]).holds set t = r.holds set t := by
        intro t ht
        have hne : t ≠ s := fun heq => hnot (heq ▸ ht)
        simp [holds, hne]
      have hpresent : (r.without [.series set s]).present set batch = r.present set batch :=
        takeWhile_congr hsame
      have hmissing : (r.without [.series set s]).firstMissing? set batch =
          r.firstMissing? set batch := List.find?_congr fun t ht => by rw [hsame t ht]
      show expel set batch (r.without [.series set s]) = _
      rw [ih (h.without _) hnodup, hpresent, hmissing, without_without]
      rfl
    · have hholds : ¬ r.holds set s = true := fun hmem => hs (holds_iff.1 hmem)
      rw [unregister_eq_none hs, List.takeWhile_cons_of_neg hholds,
        List.find?_cons_of_pos (by simpa using hholds)]
      simp

/-- **The first that is missing** comes after those that are there. -/
theorem firstMissing?_eq_some (h : r.firstMissing? set batch = some s) :
    (∃ rest, batch = r.present set batch ++ s :: rest) ∧
      (∀ t ∈ r.present set batch, .series set t ∈ r.sources) ∧ .series set s ∉ r.sources := by
  obtain ⟨hs, before, rest, rfl, hbefore⟩ := List.find?_eq_some_iff_append.1 h
  have hthere : ∀ t ∈ before, r.holds set t = true := fun t ht => by simpa using hbefore t ht
  have hmissing : ¬ r.holds set s = true := by simpa using hs
  have hpresent : r.present set (before ++ s :: rest) = before := by
    rw [present, List.takeWhile_append_of_pos hthere, List.takeWhile_cons_of_neg hmissing,
      List.append_nil]
  rw [hpresent]
  exact ⟨⟨rest, rfl⟩, fun t ht => holds_iff.1 (hthere t ht),
    fun hmem => hmissing (holds_iff.2 hmem)⟩

theorem firstMissing?_eq_none_iff :
    r.firstMissing? set Series.all = none ↔ ∀ s, .series set s ∈ r.sources := by
  unfold firstMissing?
  rw [List.find?_eq_none]
  simp only [Bool.not_eq_true', Bool.not_eq_false, holds_iff]
  exact ⟨fun h s => h s (Series.mem_all s), fun h s _ => h s⟩

/-- A batch of which none is missing is there. -/
theorem present_of_forall (h : ∀ s, .series set s ∈ r.sources) :
    r.present set batch = batch :=
  List.takeWhile_eq_self_iff.2 fun s _ => holds_iff.2 (h s)

end CommandMetrics.Registry
