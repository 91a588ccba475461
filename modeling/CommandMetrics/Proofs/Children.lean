import CommandMetrics.Children
/-!
# Children — a cell is found again, by its command or by its handle

Looking a command up and changing its cell touches that cell and no other
(`get?_update`), and commands are only ever added behind those that are
there (`commands_update`). A handle is a position: as long as no command
has two cells, changing a cell by its handle is changing it by its command
(`modifyAt_eq_update`).
-/

namespace CommandMetrics.Children

variable {α : Type}

/-! ## Cell by cell -/

theorem get?_nil (command : Text) : (⟨[]⟩ : Children α).get? command = none := rfl

theorem get?_cons (k : Text) (a : α) (rest : List (Text × α)) (command : Text) :
    (⟨(k, a) :: rest⟩ : Children α).get? command =
      if command = k then some a else (⟨rest⟩ : Children α).get? command := by
  unfold get?
  rw [List.lookup_cons]
  by_cases h : command = k
  · simp [h]
  · simp [h, beq_eq_false_iff_ne.2 h]

theorem update_nil (command : Text) (new : α) (f : α → α) :
    (⟨[]⟩ : Children α).update command new f = ⟨[(command, f new)]⟩ := rfl

theorem update_cons (k : Text) (a : α) (rest : List (Text × α)) (command : Text) (new : α)
    (f : α → α) :
    (⟨(k, a) :: rest⟩ : Children α).update command new f =
      if k = command then ⟨(k, f a) :: rest⟩
      else ⟨(k, a) :: ((⟨rest⟩ : Children α).update command new f).cells⟩ := by
  by_cases h : k = command
  · simp [update, touch, modifyAt, List.findIdx?_cons, h]
  · cases hfind : rest.findIdx? (·.1 == command) with
    | none => simp [update, touch, modifyAt, List.findIdx?_cons, h, hfind]
    | some i => simp [update, touch, modifyAt, List.findIdx?_cons, h, hfind]

/-- Making sure of a cell is an update that changes nothing. -/
theorem ensure_eq_update (c : Children α) (command : Text) (new : α) :
    c.ensure command new = c.update command new id := by
  unfold ensure update modifyAt
  have hid : ∀ (i : Nat) (cells : List (Text × α)),
      cells.modify i (fun cell => (cell.1, id cell.2)) = cells := fun i cells =>
    List.modify_id i cells
  simp only [hid]

/-! ## Reading after a change -/

/-- **Only the cell of the command changes**, and it is there afterwards. -/
theorem get?_update (c : Children α) (command other : Text) (new : α) (f : α → α) :
    (c.update command new f).get? other =
      if other = command then some (f ((c.get? command).getD new)) else c.get? other := by
  obtain ⟨cells⟩ := c
  induction cells with
  | nil => rw [update_nil, get?_cons]; rfl
  | cons cell rest ih =>
    obtain ⟨k, a⟩ := cell
    rw [update_cons, get?_cons, get?_cons]
    by_cases hk : k = command
    · subst hk
      rw [if_pos rfl, if_pos rfl, get?_cons]
      by_cases ho : other = k <;> simp [ho]
    · rw [if_neg hk, get?_cons, if_neg (Ne.symm hk)]
      by_cases ho : other = k
      · rw [if_pos ho, if_pos ho, if_neg (by rw [ho]; exact hk)]
      · rw [if_neg ho, if_neg ho]
        exact ih

/-- A second update of a cell adds to the first. -/
theorem update_update (c : Children α) (command : Text) (new : α) (f g : α → α) :
    (c.update command new f).update command new g = c.update command new (g ∘ f) := by
  obtain ⟨cells⟩ := c
  induction cells with
  | nil => simp [update_nil, update_cons]
  | cons cell rest ih =>
    obtain ⟨k, a⟩ := cell
    by_cases hk : k = command
    · simp [update_cons, hk]
    · simp only [update_cons, if_neg hk] at ih ⊢
      rw [ih]

/-! ## Commands and positions -/

theorem commands_update (c : Children α) (command : Text) (new : α) (f : α → α) :
    (c.update command new f).commands =
      if command ∈ c.commands then c.commands else c.commands ++ [command] := by
  rw [← commands_touch c command new]
  exact commands_modifyAt _ _ _

/-- A command has a cell exactly if it was used. -/
theorem mem_commands_iff {c : Children α} {command : Text} :
    command ∈ c.commands ↔ ∃ a, c.get? command = some a := by
  obtain ⟨cells⟩ := c
  induction cells with
  | nil => simp [commands, get?_nil]
  | cons cell rest ih =>
    obtain ⟨k, a⟩ := cell
    rw [get?_cons]
    simp only [commands, List.map_cons, List.mem_cons] at ih ⊢
    by_cases h : command = k
    · simp [h]
    · rw [if_neg h, ← ih]
      simp [h]

/-- Without a cell there is nothing to be found. -/
theorem get?_eq_none_of_notMem {c : Children α} {command : Text} (h : command ∉ c.commands) :
    c.get? command = none := by
  cases hget : c.get? command with
  | none => rfl
  | some a => exact absurd (mem_commands_iff.2 ⟨a, hget⟩) h

/-- Making sure of a cell that is there changes nothing. -/
theorem ensure_of_mem {c : Children α} {command : Text} (h : command ∈ c.commands) (new : α) :
    c.ensure command new = c := by
  unfold ensure touch
  split
  · rfl
  · rename_i hnone
    obtain ⟨cell, hcell, heq⟩ := List.mem_map.1 h
    have hne := List.findIdx?_eq_none_iff.1 hnone cell hcell
    simp [heq] at hne

/-- A cell that is made sure of holds what it held, or what is new. -/
theorem get?_ensure (c : Children α) (command other : Text) (new : α) :
    (c.ensure command new).get? other =
      if other = command then some ((c.get? command).getD new) else c.get? other := by
  rw [ensure_eq_update, get?_update]
  rfl

/-- Where there was no cell it holds what is new. -/
theorem get?_ensure_of_notMem {c : Children α} {command : Text} (h : command ∉ c.commands)
    (new : α) :
    (c.ensure command new).get? command = some new := by
  rw [get?_ensure, if_pos rfl, get?_eq_none_of_notMem h]
  rfl

/-- The handle that a look-up tells is the position of its command. -/
theorem getElem?_commands_touch (c : Children α) (command : Text) (new : α) :
    (c.touch command new).1.commands[(c.touch command new).2]? = some command := by
  unfold touch
  split
  · rename_i i h
    obtain ⟨hi, hc, -⟩ := List.findIdx?_eq_some_iff_getElem.1 h
    simpa [commands, hi] using hc
  · simp [commands]

/-- **Changing a cell by its handle is changing it by its command.** -/
theorem modifyAt_eq_update {c : Children α} (hnodup : c.commands.Nodup) {i : Nat}
    {command : Text} (h : c.commands[i]? = some command) (new : α) (f : α → α) :
    c.modifyAt i f = c.update command new f := by
  have hfind : c.cells.findIdx? (·.1 == command) = some i := by
    obtain ⟨hi, hcell⟩ := List.getElem?_eq_some_iff.1 h
    have hlen : i < c.cells.length := by simpa [commands] using hi
    rw [List.findIdx?_eq_some_iff_getElem]
    refine ⟨hlen, by simpa [commands] using hcell, fun j hj hjc => ?_⟩
    -- an earlier cell of the same command would be the same position
    have hjlen : j < c.commands.length := by omega
    have heq : c.commands[j] = c.commands[i] := by
      rw [hcell]
      simpa [commands] using hjc
    have := (List.getElem_inj hnodup).1 heq
    omega
  unfold update touch
  rw [hfind]

end CommandMetrics.Children
