import CommandMetrics.Bounds
import CommandMetrics.Proofs.Number
import Mathlib.Tactic.MkIffOfInductiveProp
/-!
# Acceptable bounds — exactly the lists that are taken

Bounds are acceptable when all of them are positive numbers, each lies above
all before it, and one of them is finite. The check reads them from left to
right and compares neighbours only. It keeps the part that was read `Sound`,
so that its last bound is its largest one: a bound goes with a sound list
exactly if nothing is wrong with it behind that last bound
(`sound_concat_iff`). Hence the whole list is looked at without a fault
exactly if it is sound, and else the fault that is told is the first one
(`firstFault?_eq_none_iff`, `firstFault?_eq_some_iff`). A sound list can
hold an infinity at its end only, so its first bound tells whether any of
them is finite (`Sound.isInfinite_head_iff`).
-/

namespace CommandMetrics.Bounds

/-- **No bound of a list is at fault**: all are positive numbers, and each
lies above all before it. -/
structure Sound (bounds : List Number) : Prop where
  numbers : ∀ x ∈ bounds, x.isNaN = false
  positive : ∀ x ∈ bounds, 0 < x
  increasing : bounds.Pairwise (· < ·)

/-- **Bounds as they are asked for.** -/
structure Acceptable (bounds : List Number) : Prop where
  nonempty : bounds ≠ []
  sound : Sound bounds
  finite : ∃ x ∈ bounds, x.isFinite = true

instance (bounds : List Number) : Decidable (Sound bounds) :=
  decidable_of_iff ((∀ x ∈ bounds, x.isNaN = false) ∧ (∀ x ∈ bounds, 0 < x) ∧
      bounds.Pairwise (· < ·))
    ⟨fun ⟨hnumbers, hpositive, hincreasing⟩ => ⟨hnumbers, hpositive, hincreasing⟩,
      fun ⟨hnumbers, hpositive, hincreasing⟩ => ⟨hnumbers, hpositive, hincreasing⟩⟩

instance (bounds : List Number) : Decidable (Acceptable bounds) :=
  decidable_of_iff (bounds ≠ [] ∧ Sound bounds ∧ ∃ x ∈ bounds, x.isFinite = true)
    ⟨fun ⟨hne, hsound, hfinite⟩ => ⟨hne, hsound, hfinite⟩,
      fun ⟨hne, hsound, hfinite⟩ => ⟨hne, hsound, hfinite⟩⟩

/-- What is wrong with a bound that stands behind others, of which `previous`
is the last: it is no number; else it is not positive; else it does not lie
above the one before. -/
@[mk_iff]
inductive Wrong (previous : Option Number) (bound : Number) : BoundsError → Prop
  | notANumber : bound.isNaN = true → Wrong previous bound .notANumber
  | notPositive : bound.isNaN = false → ¬ 0 < bound → Wrong previous bound (.notPositive bound)
  | notIncreasing {p : Number} : bound.isNaN = false → 0 < bound → previous = some p →
      ¬ p < bound → Wrong previous bound (.notIncreasing p bound)

/-- **What is told of bounds that are not acceptable.** A list without a bound
is empty. Else it is what is wrong with the first bound with which anything
is, or, where nothing is wrong with any, that none is finite. -/
inductive Told (bounds : List Number) : BoundsError → Prop
  | empty : bounds = [] → Told bounds .empty
  | first {before after : List Number} {bound : Number} {error : BoundsError} :
      bounds = before ++ bound :: after → Sound before → Wrong before.getLast? bound error →
      Told bounds error
  | noFiniteBound : bounds ≠ [] → Sound bounds → (∀ x ∈ bounds, x.isFinite = false) →
      Told bounds .noFiniteBound

variable {bounds before after rest accepted : List Number} {bound x : Number}
variable {error : BoundsError}

/-! ## Sound lists -/

theorem sound_nil : Sound [] where
  numbers := by simp
  positive := by simp
  increasing := List.Pairwise.nil

theorem Sound.of_append (h : Sound (before ++ rest)) : Sound before where
  numbers x hx := h.numbers x (List.mem_append_left _ hx)
  positive x hx := h.positive x (List.mem_append_left _ hx)
  increasing := (List.pairwise_append.1 h.increasing).1

/-- **An infinite bound is the last one.** -/
theorem Sound.eq_nil_of_infinity (h : Sound (before ++ .infinity false :: after)) : after = [] := by
  have htail := (List.pairwise_append.1 h.increasing).2.1
  cases after with
  | nil => rfl
  | cons next after =>
    have hnext : Number.infinity false < next := (List.pairwise_cons.1 htail).1 next (by simp)
    exact absurd hnext (Number.not_infinity_lt next)

/-- The last bound of a sound list is its largest one, so whatever lies above
it lies above all. -/
theorem Sound.lt_of_getLast? (h : Sound before) (hlast : ∀ p, before.getLast? = some p → p < x) :
    ∀ y ∈ before, y < x := by
  intro y hy
  obtain ⟨front, p, rfl⟩ : ∃ front p, before = front ++ [p] :=
    ⟨_, _, (List.dropLast_concat_getLast (List.ne_nil_of_mem hy)).symm⟩
  have hpx : p < x := hlast p (by simp)
  rcases List.mem_append.1 hy with hfront | hp
  · have hyp : y < p := (List.pairwise_append.1 h.increasing).2.2 y hfront p (by simp)
    exact Number.lt_trans hyp hpx
  · rw [List.mem_singleton.1 hp]
    exact hpx

/-- **A list goes on being sound with a bound** that is a positive number and
lies above the last one. -/
theorem sound_concat_iff (h : Sound before) : Sound (before ++ [bound]) ↔
    bound.isNaN = false ∧ 0 < bound ∧ ∀ p, before.getLast? = some p → p < bound := by
  constructor
  · intro hall
    refine ⟨hall.numbers bound (by simp), hall.positive bound (by simp), fun p hp => ?_⟩
    exact (List.pairwise_append.1 hall.increasing).2.2 p (List.mem_of_getLast? hp) bound (by simp)
  · rintro ⟨hnumber, hpositive, hlast⟩
    have habove : ∀ y ∈ before, y < bound := h.lt_of_getLast? hlast
    refine ⟨fun x hx => ?_, fun x hx => ?_, ?_⟩
    · rcases List.mem_append.1 hx with hold | hnew
      · exact h.numbers x hold
      · rw [List.mem_singleton.1 hnew]
        exact hnumber
    · rcases List.mem_append.1 hx with hold | hnew
      · exact h.positive x hold
      · rw [List.mem_singleton.1 hnew]
        exact hpositive
    · refine List.pairwise_append.2 ⟨h.increasing, List.pairwise_singleton _ _, fun y hy x hx => ?_⟩
      rw [List.mem_singleton.1 hx]
      exact habove y hy

/-! ## The check, bound by bound -/

/-- **The fault of a bound is what is wrong with it**, as long as the bound
before is a number. -/
theorem fault?_eq_some_iff {previous : Option Number}
    (hprevious : ∀ p, previous = some p → p.isNaN = false) :
    fault? previous bound = some error ↔ Wrong previous bound error := by
  rw [wrong_iff]
  unfold fault?
  cases hnan : bound.isNaN with
  | true => simp [eq_comm]
  | false =>
    have hsign : ¬ bound ≤ 0 ↔ 0 < bound := Number.not_le_iff hnan (by decide +kernel)
    by_cases hle : bound ≤ 0
    · have hnot : ¬ 0 < bound := fun h => hsign.2 h hle
      simp [hle, hnot, eq_comm]
    · have hpositive : 0 < bound := hsign.1 hle
      cases previous with
      | none => simp [hle, hpositive]
      | some p =>
        have horder : ¬ bound ≤ p ↔ p < bound := Number.not_le_iff hnan (hprevious p rfl)
        by_cases hp : bound ≤ p
        · have hnot : ¬ p < bound := fun h => horder.2 h hp
          simp [hle, hpositive, hp, hnot, eq_comm]
        · have habove : p < bound := horder.1 hp
          simp [hle, hpositive, hp, habove]

/-- The last bound of a sound list is a number. -/
theorem Sound.isNaN_getLast? (h : Sound before) :
    ∀ p, before.getLast? = some p → p.isNaN = false := fun p hp =>
  h.numbers p (List.mem_of_getLast? hp)

/-- **A bound goes with a sound list** if it has no fault behind it. -/
theorem sound_concat_iff_fault? (h : Sound before) :
    Sound (before ++ [bound]) ↔ fault? before.getLast? bound = none := by
  rw [sound_concat_iff h]
  constructor
  · rintro ⟨hnumber, hpositive, hlast⟩
    rw [Option.eq_none_iff_forall_ne_some]
    intro error herror
    rcases (fault?_eq_some_iff h.isNaN_getLast?).1 herror with
      hnan | ⟨-, hnot⟩ | ⟨-, -, hp, hnot⟩
    · rw [hnumber] at hnan
      cases hnan
    · exact hnot hpositive
    · exact hnot (hlast _ hp)
  · intro hnone
    have hright : ∀ error, ¬ Wrong before.getLast? bound error := fun error hwrong =>
      nomatch hnone.symm.trans ((fault?_eq_some_iff h.isNaN_getLast?).2 hwrong)
    have hnumber : bound.isNaN = false :=
      Bool.eq_false_iff.2 fun hnan => hright _ (.notANumber hnan)
    have hpositive : 0 < bound :=
      Decidable.not_not.1 fun hnot => hright _ (.notPositive hnumber hnot)
    exact ⟨hnumber, hpositive, fun p hp =>
      Decidable.not_not.1 fun hnot => hright _ (.notIncreasing hnumber hpositive hp hnot)⟩

/-- **Nothing is at fault in what follows a sound list** if the list goes on
being sound, -/
theorem firstFault?_eq_none_iff (h : Sound before) :
    firstFault? before.getLast? rest = none ↔ Sound (before ++ rest) := by
  induction rest generalizing before with
  | nil => simpa [firstFault?] using h
  | cons bound rest ih =>
    have hsplit : before ++ bound :: rest = before ++ [bound] ++ rest := by simp
    rw [firstFault?, Option.or_eq_none_iff, ← sound_concat_iff_fault? h, hsplit]
    constructor
    · rintro ⟨hbound, hrest⟩
      exact (ih hbound).1 (by rwa [List.getLast?_concat])
    · intro hall
      have hbound := hall.of_append
      have hrest := (ih hbound).2 hall
      exact ⟨hbound, by rwa [List.getLast?_concat] at hrest⟩

/-- and else the fault is that of the first bound with which anything is
wrong. -/
theorem firstFault?_eq_some_iff (h : Sound before) :
    firstFault? before.getLast? rest = some error ↔ ∃ front bound after,
      rest = front ++ bound :: after ∧ Sound (before ++ front) ∧
        Wrong (before ++ front).getLast? bound error := by
  induction rest generalizing before with
  | nil => simp [firstFault?]
  | cons bound rest ih =>
    rw [firstFault?, Option.or_eq_some_iff]
    constructor
    · rintro (hfault | ⟨hnone, hrest⟩)
      · refine ⟨[], bound, rest, rfl, by simpa using h, ?_⟩
        rw [List.append_nil]
        exact (fault?_eq_some_iff h.isNaN_getLast?).1 hfault
      · have hbound := (sound_concat_iff_fault? h).2 hnone
        rw [← List.getLast?_concat (l := before)] at hrest
        obtain ⟨front, found, after, rfl, hsound, hwrong⟩ := (ih hbound).1 hrest
        rw [List.append_assoc] at hsound hwrong
        exact ⟨bound :: front, found, after, rfl, hsound, hwrong⟩
    · rintro ⟨front, found, after, hsplit, hsound, hwrong⟩
      cases front with
      | nil =>
        rw [List.append_nil] at hwrong
        cases hsplit
        exact .inl ((fault?_eq_some_iff h.isNaN_getLast?).2 hwrong)
      | cons first front =>
        cases hsplit
        have happend : before ++ bound :: front = before ++ [bound] ++ front := by simp
        rw [happend] at hsound hwrong
        have hbound := hsound.of_append
        have hrest := (ih hbound).2 ⟨front, found, after, rfl, hsound, hwrong⟩
        rw [List.getLast?_concat] at hrest
        exact .inr ⟨(sound_concat_iff_fault? h).1 hbound, hrest⟩

/-! ## The whole list -/

/-- A sound list that begins with an infinity has no other bound. -/
theorem Sound.eq_nil_of_isInfinite (h : Sound (bound :: rest)) (hinf : bound.isInfinite = true) :
    bound = .infinity false ∧ rest = [] := by
  have hpositive : 0 < bound := h.positive bound List.mem_cons_self
  have hbound : bound = .infinity false := by
    refine (Number.isFinite_eq_false_iff hpositive).1 ?_
    cases bound with
    | finite => cases hinf
    | _ => rfl
  subst hbound
  have hrest : Sound ([] ++ .infinity false :: rest) := h
  exact ⟨rfl, hrest.eq_nil_of_infinity⟩

/-- **The first bound of a sound list tells whether any is finite.** -/
theorem Sound.isInfinite_head_iff (h : Sound (bound :: rest)) :
    bound.isInfinite = true ↔ ∀ x ∈ bound :: rest, x.isFinite = false := by
  constructor
  · intro hinf
    obtain ⟨rfl, rfl⟩ := h.eq_nil_of_isInfinite hinf
    intro x hx
    rw [List.mem_singleton.1 hx]
    rfl
  · intro hall
    have hpositive : 0 < bound := h.positive bound List.mem_cons_self
    rw [(Number.isFinite_eq_false_iff hpositive).1 (hall bound List.mem_cons_self)]
    rfl

/-- Where some bound is finite, not all are infinite. -/
theorem exists_isFinite_iff :
    (∃ x ∈ bounds, x.isFinite = true) ↔ ¬ ∀ x ∈ bounds, x.isFinite = false := by
  simp

/-- So acceptable are the sound lists that begin with a finite bound. -/
theorem acceptable_iff_head : Acceptable bounds ↔
    Sound bounds ∧ ∃ first ∈ bounds.head?, first.isFinite = true := by
  cases bounds with
  | nil =>
    constructor
    · intro h
      exact absurd rfl h.nonempty
    · rintro ⟨-, first, hfirst, -⟩
      cases hfirst
  | cons bound rest =>
    constructor
    · intro h
      refine ⟨h.sound, bound, rfl, ?_⟩
      have hpositive : 0 < bound := h.sound.positive bound List.mem_cons_self
      cases hfinite : bound.isFinite with
      | true => rfl
      | false =>
        have hinf : bound.isInfinite = true := by
          rw [(Number.isFinite_eq_false_iff hpositive).1 hfinite]
          rfl
        exact absurd (h.sound.isInfinite_head_iff.1 hinf) (exists_isFinite_iff.1 h.finite)
    · rintro ⟨hsound, first, hfirst, hfinite⟩
      cases hfirst
      exact ⟨by simp, hsound, bound, List.mem_cons_self, hfinite⟩

/-- **Exactly the acceptable bounds are accepted**, and they are kept as they
are. -/
theorem validate_eq_ok_iff :
    validate bounds = .ok accepted ↔ accepted = bounds ∧ Acceptable bounds := by
  have hfault : firstFault? none bounds = none ↔ Sound bounds := firstFault?_eq_none_iff sound_nil
  cases bounds with
  | nil =>
    constructor
    · intro h
      cases h
    · rintro ⟨-, h⟩
      exact absurd rfl h.nonempty
  | cons bound rest =>
    unfold validate
    dsimp only
    cases hfirst : firstFault? none (bound :: rest) with
    | some error =>
      have hunsound : ¬ Sound (bound :: rest) := fun h => nomatch hfirst.symm.trans (hfault.2 h)
      constructor
      · intro h
        cases h
      · rintro ⟨-, h⟩
        exact absurd h.sound hunsound
    | none =>
      have hsound : Sound (bound :: rest) := hfault.1 hfirst
      have hhead := hsound.isInfinite_head_iff
      dsimp only
      by_cases hinf : bound.isInfinite = true
      · rw [if_pos hinf]
        constructor
        · intro h
          cases h
        · rintro ⟨-, h⟩
          exact absurd (hhead.1 hinf) (exists_isFinite_iff.1 h.finite)
      · rw [if_neg hinf, Except.ok.injEq]
        constructor
        · intro h
          exact ⟨h.symm, by simp, hsound, exists_isFinite_iff.2 fun hall => hinf (hhead.2 hall)⟩
        · rintro ⟨h, -⟩
          exact h.symm

/-- **Of bounds that are not acceptable, the first violation is told.** -/
theorem validate_eq_error_iff : validate bounds = .error error ↔ Told bounds error := by
  have hnone : firstFault? none bounds = none ↔ Sound bounds := firstFault?_eq_none_iff sound_nil
  have hsome : firstFault? none bounds = some error ↔ ∃ front bound after,
      bounds = front ++ bound :: after ∧ Sound front ∧ Wrong front.getLast? bound error :=
    firstFault?_eq_some_iff sound_nil
  cases bounds with
  | nil =>
    constructor
    · intro h
      cases h
      exact .empty rfl
    · rintro (- | ⟨hsplit, -, -⟩ | ⟨hne, -, -⟩)
      · rfl
      · simp at hsplit
      · exact absurd rfl hne
  | cons bound rest =>
    unfold validate
    dsimp only
    constructor
    · intro h
      cases hfirst : firstFault? none (bound :: rest) with
      | some fault =>
        rw [hfirst] at h
        cases h
        obtain ⟨before, found, after, hsplit, hsound, hwrong⟩ := hsome.1 hfirst
        exact .first hsplit hsound hwrong
      | none =>
        have hsound : Sound (bound :: rest) := hnone.1 hfirst
        rw [hfirst] at h
        dsimp only at h
        split at h
        · rename_i hinf
          cases h
          exact .noFiniteBound (by simp) hsound (hsound.isInfinite_head_iff.1 hinf)
        · cases h
    · rintro (hnil | ⟨hsplit, hsound, hwrong⟩ | ⟨-, hsound, hall⟩)
      · cases hnil
      · rw [hsome.2 ⟨_, _, _, hsplit, hsound, hwrong⟩]
      · rw [hnone.2 hsound]
        dsimp only
        rw [if_pos (hsound.isInfinite_head_iff.2 hall)]

/-- **An infinity stands at the end of acceptable bounds only**, behind
another bound. -/
theorem Acceptable.of_infinity (h : Acceptable (before ++ .infinity false :: after)) :
    after = [] ∧ before ≠ [] := by
  have hafter := h.sound.eq_nil_of_infinity
  refine ⟨hafter, ?_⟩
  rintro rfl
  obtain ⟨x, hx, hfinite⟩ := h.finite
  rw [hafter, List.nil_append, List.mem_singleton] at hx
  rw [hx] at hfinite
  cases hfinite

end CommandMetrics.Bounds
