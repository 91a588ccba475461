import CommandMetrics.Failure
/-!
# Command names — any text with a character in it

The one rule for names, shared by every kind of collector.
-/

namespace CommandMetrics.CommandName

/-- The operation that is named when a name is refused and no other is
under way. -/
def newRecorder : String := "new_recorder"

/-- Refuses a name. The context is built from the operation under way,
whose own fields are checked before the name's error can be told. -/
def refuse (fields : Fields) (reason : Context → Failure) : Failure :=
  match Context.ofFields fields with
  | .ok context => reason context
  | .error rejection => .fault (.rejected rejection)

/-- **Accepts a command name**, or says what is wrong with it. -/
def check (operation : Value) : Value → Except Failure Text
  | .text (.plain "") =>
    .error (refuse [("operation", operation), ("command_name", .text "")] .nameEmpty)
  | .text name => .ok name
  | v => .error (refuse [("operation", operation)] (.nameKind · v.kind))

/-- Exactly the texts with a character in them are accepted, and kept as
they are. -/
theorem check_eq_ok_iff {operation v : Value} {name : Text} :
    check operation v = .ok name ↔ v = .text name ∧ name ≠ "" := by
  unfold check
  split
  · simp +contextual [eq_comm]
  · rename_i given hne
    constructor
    · intro h
      cases h
      exact ⟨rfl, fun hempty => hne (by rw [hempty])⟩
    · rintro ⟨h, _⟩
      cases h
      rfl
  · rename_i hne
    constructor
    · intro h
      cases h
    · rintro ⟨rfl, _⟩
      exact absurd rfl (hne name)

end CommandMetrics.CommandName
