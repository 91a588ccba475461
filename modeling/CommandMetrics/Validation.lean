import CommandMetrics.Bounds
import CommandMetrics.Value
/-!
# Validation — what is wrong with the fields of a model

A model is built from named fields of untyped values. Every field is
looked at, so a rejection lists all that is wrong: the fields in the order
of their declaration, the items of a field by position, and unknown fields
last, by name. `Checked` carries either a value or these issues, and
combining two of them keeps the issues of both.
-/

namespace CommandMetrics

/-- One thing that is wrong with a field. -/
inductive Problem where
  | missing
  | unknownField
  | frozen
  | numberText
  | numberKind
  | integerText
  | integerSize
  | integerFraction
  | integerInfinite
  | integerKind
  | tooSmall (least : Int)
  | tooLarge (most : Int)
  | textKind
  | textEncoding
  | textTooShort
  | sequenceKind
  | metricKind
  | uuidText
  | uuidKind
  | bounds (error : BoundsError)
  deriving DecidableEq

namespace Problem

/-- The name a problem is reported under. -/
def type : Problem → String
  | missing => "missing"
  | unknownField => "extra_forbidden"
  | frozen => "frozen_instance"
  | numberText => "float_parsing"
  | numberKind => "float_type"
  | integerText => "int_parsing"
  | integerSize => "int_parsing_size"
  | integerFraction => "int_from_float"
  | integerInfinite => "finite_number"
  | integerKind => "int_type"
  | tooSmall _ => "greater_than_equal"
  | tooLarge _ => "less_than_equal"
  | textKind => "string_type"
  | textEncoding => "string_unicode"
  | textTooShort => "string_too_short"
  | sequenceKind => "tuple_type"
  | metricKind => "enum"
  | uuidText => "uuid_parsing"
  | uuidKind => "uuid_type"
  | bounds _ => "value_error"

/-- The words for a problem. Those for the text of an identifier depend
on where in the text reading stopped, and are not part of a report. -/
def message? : Problem → Option String
  | missing => some "Field required"
  | unknownField => some "Extra inputs are not permitted"
  | frozen => some "Instance is frozen"
  | numberText => some "Input should be a valid number, unable to parse string as a number"
  | numberKind => some "Input should be a valid number"
  | integerText => some "Input should be a valid integer, unable to parse string as an integer"
  | integerSize => some "Unable to parse input string as an integer, exceeded maximum size"
  | integerFraction => some "Input should be a valid integer, got a number with a fractional part"
  | integerInfinite => some "Input should be a finite number"
  | integerKind => some "Input should be a valid integer"
  | tooSmall least => some s!"Input should be greater than or equal to {least}"
  | tooLarge most => some s!"Input should be less than or equal to {most}"
  | textKind => some "Input should be a valid string"
  | textEncoding =>
    some "Input should be a valid string, unable to parse raw data as a unicode string"
  | textTooShort => some "String should have at least 1 character"
  | sequenceKind => some "Input should be a valid tuple"
  | metricKind => some "Input should be 'counter', 'gauge' or 'histogram'"
  | uuidText => none
  | uuidKind => some "UUID input should be a string, bytes or UUID object"
  | bounds error => some ("Value error, " ++ error.message)

end Problem

/-- A step on the way to what is wrong: a field, or an item of one. -/
inductive Step where
  | field (name : String)
  | item (index : Nat)
  deriving DecidableEq, Repr

/-- A problem and where it is. -/
structure Issue where
  problem : Problem
  path : List Step
  deriving DecidableEq

/-- The refusal to build a model, with all its issues. -/
structure Rejection where
  model : String
  issues : List Issue
  deriving DecidableEq

/-- The first line of a rejection's words. -/
def Rejection.headline (r : Rejection) : String :=
  toString r.issues.length ++ " validation error" ++ (if r.issues.length = 1 then "" else "s")
    ++ " for " ++ r.model

/-- A value, or all that is wrong with it. -/
inductive Checked (α : Type) where
  | ok (value : α)
  | wrong (issues : List Issue)

namespace Checked

variable {α β : Type}

/-- A single problem, right here. -/
def problem (p : Problem) : Checked α := wrong [⟨p, []⟩]

/-- The issues, of which a value that is in order has none. -/
def issues : Checked α → List Issue
  | ok _ => []
  | wrong found => found

protected def map (f : α → β) : Checked α → Checked β
  | ok value => ok (f value)
  | wrong found => wrong found

/-- Goes on with a value that is in order. -/
def andThen : Checked α → (α → Checked β) → Checked β
  | ok value, f => f value
  | wrong found, _ => wrong found

/-- Applies a checked function to a checked argument; the issues of both
are kept, those of the function first. -/
def ap (f : Checked (α → β)) (x : Checked α) : Checked β :=
  match f, x with
  | ok g, ok value => ok (g value)
  | f, x => wrong (f.issues ++ x.issues)

/-- Puts a step in front of the way to every issue. -/
def under (step : Step) : Checked α → Checked α
  | ok value => ok value
  | wrong found => wrong (found.map fun issue => { issue with path := step :: issue.path })

/-- Checks every item of a list, counting from an index. -/
def each (check : Value → Checked α) (index : Nat) : List Value → Checked (List α)
  | [] => ok []
  | item :: rest =>
    (ap (((check item).under (.item index)).map List.cons) (each check (index + 1) rest))

/-- The value, or the rejection of a model. -/
def forModel (model : String) : Checked α → Except Rejection α
  | ok value => .ok value
  | wrong found => .error ⟨model, found⟩

end Checked

/-- Named values, from which a model is built. -/
abbrev Fields := List (String × Value)

namespace Fields

variable {α : Type}

/-- Reads a field that must be there. -/
def required (fields : Fields) (name : String) (check : Value → Checked α) : Checked α :=
  match fields.lookup name with
  | some value => (check value).under (.field name)
  | none => (Checked.problem .missing).under (.field name)

/-- Reads a field that has a default. -/
def optional (fields : Fields) (name : String) (default : α) (check : Value → Checked α) :
    Checked α :=
  match fields.lookup name with
  | some value => (check value).under (.field name)
  | none => .ok default

/-- Refuses the fields that a model does not know. -/
def closed (fields : Fields) (known : List String) : Checked Unit :=
  let unknown := (fields.map Prod.fst).filter fun name => !known.contains name
  match unknown.mergeSort (fun a b => decide (a ≤ b)) with
  | [] => .ok ()
  | names => .wrong (names.map fun name => ⟨.unknownField, [.field name]⟩)

end Fields

/-- The refusal to change a part of a model that is already built. -/
def Rejection.ofAssignment (model part : String) : Rejection :=
  ⟨model, [⟨.frozen, [.field part]⟩]⟩

end CommandMetrics
