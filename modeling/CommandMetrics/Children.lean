import CommandMetrics.Text.Basic
/-!
# Children — one cell of a series for each command

The cells of a series are kept in the order in which their commands were
first used. A cell is made when its command is first looked up and stays
where it is from then on, so its position is a handle that remains good.
Looking up and changing are two steps: other steps may come in between.
-/

namespace CommandMetrics

/-- The cells of a series by command. -/
structure Children (α : Type) where
  cells : List (Text × α)
  deriving DecidableEq

namespace Children

variable {α : Type}

/-- No command was used yet. -/
def empty : Children α := ⟨[]⟩

/-- The commands in the order of their first use. -/
def commands (c : Children α) : List Text := c.cells.map Prod.fst

/-- The cell of a command. -/
def get? (c : Children α) (command : Text) : Option α := c.cells.lookup command

/-- **Looks up the cell of a command**, making it if there is none, and
tells its position. -/
def touch (c : Children α) (command : Text) (new : α) : Children α × Nat :=
  match c.cells.findIdx? (·.1 == command) with
  | some i => (c, i)
  | none => (⟨c.cells ++ [(command, new)]⟩, c.cells.length)

/-- Changes the cell at a position. -/
def modifyAt (c : Children α) (i : Nat) (f : α → α) : Children α :=
  ⟨c.cells.modify i fun cell => (cell.1, f cell.2)⟩

/-- Looking up adds a command at the end, or nothing. -/
theorem commands_touch (c : Children α) (command : Text) (new : α) :
    (c.touch command new).1.commands =
      if command ∈ c.commands then c.commands else c.commands ++ [command] := by
  unfold touch
  split
  · rename_i i h
    obtain ⟨hi, hc, -⟩ := List.findIdx?_eq_some_iff_getElem.1 h
    rw [if_pos]
    exact List.mem_map.2 ⟨c.cells[i], List.getElem_mem hi, by simpa using hc⟩
  · rename_i h
    rw [if_neg]
    · simp [commands]
    · intro hmem
      obtain ⟨cell, hcell, rfl⟩ := List.mem_map.1 hmem
      simpa using List.findIdx?_eq_none_iff.1 h cell hcell

/-- Changing a cell moves no command. -/
@[simp] theorem commands_modifyAt (c : Children α) (i : Nat) (f : α → α) :
    (c.modifyAt i f).commands = c.commands := by
  unfold modifyAt commands
  refine List.ext_getElem? fun j => ?_
  rw [List.getElem?_map, List.getElem?_map, List.getElem?_modify]
  by_cases h : i = j
  · subst h
    cases c.cells[i]? <;> simp
  · simp [h]

/-- Makes sure that a command has a cell. -/
def ensure (c : Children α) (command : Text) (new : α) : Children α :=
  (c.touch command new).1

/-- Looks up the cell of a command and changes it. -/
def update (c : Children α) (command : Text) (new : α) (f : α → α) : Children α :=
  let (touched, i) := c.touch command new
  touched.modifyAt i f

end Children

end CommandMetrics
