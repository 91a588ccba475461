import CommandMetrics.Proofs.Config
import Mathlib.Data.List.Forall2
/-!
# Items — lists that are read item by item

A list is read in one of two ways. Reading in order stops at the first item
that cannot be read, and tells its fault (`mapM_eq_ok_iff`,
`mapM_eq_error_of_first`). Checking looks at every item and gathers the issues
of all of them (`each_eq_ok_iff`). What comes of a list that is in order is the
same: for each item its own result, in the same place. Bounds on their own are
read in order, and taken exactly if they are acceptable
(`ofValue_accepts_exactly`).
-/

namespace CommandMetrics

section Reading

variable {ε α β : Type} {read : α → Except ε β} {items : List α} {results : List β} {fault : ε}

/-- **A list is read if every item is**, each to its own result. -/
theorem mapM_eq_ok_iff : items.mapM read = .ok results ↔
    List.Forall₂ (fun item result => read item = .ok result) items results := by
  induction items generalizing results with
  | nil => simp [pure, Except.pure, eq_comm]
  | cons item rest ih =>
    rw [List.mapM_cons]
    cases hitem : read item with
    | error refusal => simp [bind, Except.bind, List.forall₂_cons_left_iff, hitem]
    | ok result =>
      cases hrest : rest.mapM read with
      | error refusal =>
        have hnone : ∀ left, ¬ List.Forall₂ (fun item result => read item = .ok result) rest left :=
          fun left hleft => nomatch hrest.symm.trans (ih.2 hleft)
        simp [bind, Except.bind, List.forall₂_cons_left_iff, hnone]
      | ok left =>
        have hleft : ∀ other, List.Forall₂ (fun item result => read item = .ok result) rest other ↔
            left = other := fun other => by rw [← ih, hrest, Except.ok.injEq]
        simp [bind, Except.bind, pure, Except.pure, List.forall₂_cons_left_iff, hitem, hleft,
          eq_comm]

/-- Every item of a list that was read could be read. -/
theorem exists_of_mapM_eq_ok (h : items.mapM read = .ok results) :
    ∀ item ∈ items, ∃ result, read item = .ok result := by
  have hall := mapM_eq_ok_iff.1 h
  clear h
  induction hall with
  | nil => simp
  | cons hitem _ ih =>
    intro item hmem
    rcases List.mem_cons.1 hmem with rfl | hrest
    · exact ⟨_, hitem⟩
    · exact ih item hrest

/-- What could not be read has a first item that could not. -/
theorem exists_of_mapM_eq_error (h : items.mapM read = .error fault) :
    ∃ before item after, items = before ++ item :: after ∧
      (∀ earlier ∈ before, ∃ result, read earlier = .ok result) ∧ read item = .error fault := by
  induction items with
  | nil => cases h
  | cons item rest ih =>
    rw [List.mapM_cons] at h
    cases hitem : read item with
    | error refusal =>
      rw [hitem] at h
      cases h
      exact ⟨[], item, rest, rfl, by simp, hitem⟩
    | ok result =>
      have hrest : rest.mapM read = .error fault := by
        rw [hitem] at h
        cases hleft : rest.mapM read with
        | error refusal =>
          rw [hleft] at h
          cases h
          rfl
        | ok left =>
          rw [hleft] at h
          cases h
      obtain ⟨before, found, after, rfl, hbefore, hfound⟩ := ih hrest
      refine ⟨item :: before, found, after, rfl, fun earlier hearlier => ?_, hfound⟩
      rcases List.mem_cons.1 hearlier with rfl | hmem
      · exact ⟨result, hitem⟩
      · exact hbefore earlier hmem

/-- **Reading stops at the first item that cannot be read**, whatever comes
after it. -/
theorem mapM_eq_error_of_first {before after : List α} {item : α}
    (hbefore : ∀ earlier ∈ before, ∃ result, read earlier = .ok result)
    (hitem : read item = .error fault) : (before ++ item :: after).mapM read = .error fault := by
  induction before with
  | nil => rw [List.nil_append, List.mapM_cons, hitem]; rfl
  | cons earlier before ih =>
    obtain ⟨result, hresult⟩ := hbefore earlier List.mem_cons_self
    have hrest := ih fun other hother => hbefore other (List.mem_cons_of_mem _ hother)
    rw [List.cons_append, List.mapM_cons, hresult, hrest]
    rfl

end Reading

namespace Checked

variable {α : Type} {check : Value → Checked α} {items : List Value} {results : List α}

/-- **Every item passes its check** where a list does. -/
theorem each_eq_ok_iff {index : Nat} : each check index items = .ok results ↔
    List.Forall₂ (fun item result => check item = .ok result) items results := by
  induction items generalizing index results with
  | nil => simp [each, eq_comm]
  | cons item rest ih =>
    rw [each, ap_eq_ok_iff]
    constructor
    · rintro ⟨_, left, hitem, hleft, rfl⟩
      obtain ⟨result, hresult, rfl⟩ := map_eq_ok_iff.1 hitem
      exact .cons (under_eq_ok_iff.1 hresult) (ih.1 hleft)
    · intro h
      obtain ⟨result, left, hresult, hleft, rfl⟩ := List.forall₂_cons_left_iff.1 h
      exact ⟨_, left, map_eq_ok_iff.2 ⟨result, under_eq_ok_iff.2 hresult, rfl⟩, ih.2 hleft, rfl⟩

/-- Numbers are read as themselves. -/
theorem each_number (xs : List Number) (index : Nat) :
    each Coercion.number index (xs.map .number) = ok xs := by
  rw [each_eq_ok_iff, List.forall₂_map_left_iff]
  exact List.forall₂_same.2 fun x _ => rfl

end Checked

/-! ## Bounds on their own -/

theorem Value.items_eq {value : Value} {items : List Value} (hitems : value.items? = some items) :
    value.items = .ok items := by
  unfold Value.items
  rw [hitems]

namespace Bounds

variable {value : Value} {items : List Value} {numbers : List Number}

/-- **The numbers that items are**, each in its place. -/
def Reads (items : List Value) (numbers : List Number) : Prop :=
  List.Forall₂ (fun item x => item.toNumber = .ok x) items numbers

theorem reads_number (numbers : List Number) : Reads (numbers.map .number) numbers :=
  List.forall₂_map_left_iff.2 (List.forall₂_same.2 fun _ _ => rfl)

/-- What can be run through is read first, and validated then. -/
theorem ofValue_eq (hitems : value.items? = some items) : ofValue value =
    (items.mapM Value.toNumber).bind fun numbers => (validate numbers).mapError .bounds := by
  unfold ofValue
  rw [Value.items_eq hitems]
  simp only [bind, Except.bind]
  cases items.mapM Value.toNumber with
  | error fault => rfl
  | ok numbers => cases hvalid : validate numbers <;> simp only [hvalid, Except.mapError]

/-- What is returned was read from the items, and is acceptable. -/
theorem of_ofValue_eq_ok {accepted : List Number} (hitems : value.items? = some items)
    (h : ofValue value = .ok accepted) : Reads items accepted ∧ Acceptable accepted := by
  rw [ofValue_eq hitems] at h
  cases hread : items.mapM Value.toNumber with
  | error fault =>
    rw [hread] at h
    cases h
  | ok numbers =>
    rw [hread, Except.bind] at h
    cases hvalid : validate numbers with
    | error error =>
      rw [hvalid] at h
      cases h
    | ok taken =>
      rw [hvalid] at h
      cases h
      obtain ⟨rfl, hacceptable⟩ := validate_eq_ok_iff.1 hvalid
      exact ⟨mapM_eq_ok_iff.1 hread, hacceptable⟩

/-- Items that are numbers are judged by these numbers alone. -/
theorem ofValue_of_reads (hitems : value.items? = some items) (hreads : Reads items numbers) :
    ofValue value = (validate numbers).mapError .bounds := by
  rw [ofValue_eq hitems, mapM_eq_ok_iff.2 hreads]
  rfl

/-- **Bounds on their own are taken exactly if they are acceptable.** Of items
that are numbers just the acceptable ones are returned, as these numbers; for
any others the first violation is told, and an infinity is accepted only at
the end, behind another bound. Where an item is no number, that is told
before any violation, whatever the other items are: of several such items it
is the first one's fault. What was returned is returned again. -/
theorem ofValue_accepts_exactly (hitems : value.items? = some items) :
    (∀ numbers, Reads items numbers →
      (∀ accepted, ofValue value = .ok accepted ↔ accepted = numbers ∧ Acceptable numbers) ∧
      (∀ fault, ofValue value = .error fault ↔
        ∃ error, fault = .bounds error ∧ Told numbers error) ∧
      (Acceptable numbers → ∀ before after, numbers = before ++ .infinity false :: after →
        after = [] ∧ before ≠ [])) ∧
    (∀ before item after fault, items = before ++ item :: after →
      (∀ earlier ∈ before, ∃ x, earlier.toNumber = .ok x) → item.toNumber = .error fault →
      ofValue value = .error fault) ∧
    (∀ item ∈ items, ∀ fault, item.toNumber = .error fault →
      ∃ before first after told, items = before ++ first :: after ∧
        (∀ earlier ∈ before, ∃ x, earlier.toNumber = .ok x) ∧ first.toNumber = .error told ∧
        ofValue value = .error told) ∧
    (∀ accepted, ofValue value = .ok accepted →
      ofValue (.tuple (accepted.map .number)) = .ok accepted) := by
  refine ⟨fun numbers hreads => ⟨fun accepted => ?_, fun fault => ?_, ?_⟩, ?_, ?_, ?_⟩
  · rw [ofValue_of_reads hitems hreads, ← validate_eq_ok_iff]
    cases validate numbers <;> simp [Except.mapError]
  · rw [ofValue_of_reads hitems hreads]
    simp only [← validate_eq_error_iff]
    cases validate numbers <;> simp [Except.mapError, eq_comm]
  · rintro hacceptable before after rfl
    exact hacceptable.of_infinity
  -- the first item that is no number ends the reading, before anything is validated
  · rintro before item after fault rfl hbefore hitem
    rw [ofValue_eq hitems, mapM_eq_error_of_first hbefore hitem]
    rfl
  · intro item hmem fault hfault
    cases hread : items.mapM Value.toNumber with
    | ok numbers =>
      obtain ⟨x, hx⟩ := exists_of_mapM_eq_ok hread item hmem
      exact nomatch hfault.symm.trans hx
    | error told =>
      obtain ⟨before, first, after, hsplit, hbefore, hfirst⟩ := exists_of_mapM_eq_error hread
      refine ⟨before, first, after, told, hsplit, hbefore, hfirst, ?_⟩
      rw [ofValue_eq hitems, hread]
      rfl
  · intro accepted haccepted
    obtain ⟨-, hacceptable⟩ := of_ofValue_eq_ok hitems haccepted
    rw [ofValue_of_reads rfl (reads_number accepted), validate_eq_ok_iff.2 ⟨rfl, hacceptable⟩]
    rfl

/-- A truth value and an infinity are bounds; a zero is none, but of a list
that holds nothing besides, the item that is no number is told. -/
theorem ofValue_accepts_exactly_mixed :
    ofValue (.list [.flag true, .number (.infinity false)]) = .ok [1, .infinity false] ∧
      ofValue (.list [.number 0, .absent]) = .error (.notNumeric "NoneType") := by
  have hacceptable : Acceptable [1, .infinity false] :=
    ⟨by simp, ⟨by decide +kernel, by decide +kernel, by decide +kernel⟩, by decide +kernel⟩
  have hreads : Reads [.flag true, .number (.infinity false)] [1, .infinity false] :=
    .cons rfl (.cons rfl .nil)
  constructor
  · exact (((ofValue_accepts_exactly rfl).1 _ hreads).1 _).2 ⟨rfl, hacceptable⟩
  · exact (ofValue_accepts_exactly rfl).2.1 [.number 0] .absent [] _ rfl
      (by simp [Value.toNumber]) rfl

end Bounds

end CommandMetrics
