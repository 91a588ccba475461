import CommandMetrics.Numeral
import CommandMetrics.Validation
/-!
# Coercion — the values a field takes

A field of a model takes more than the values of its own type: numbers
are read from texts and bytes, whole numbers from numbers without a
fraction, texts from bytes. What it does not take is a `Problem`.
-/

namespace CommandMetrics.Coercion

open Checked

/-- The text that bytes encode, if they do. -/
def decoded? (content : List UInt8) : Option String :=
  String.fromUTF8? ⟨content.toArray⟩

/-- A number. -/
def number : Value → Checked Number
  | .number x => ok x
  | .flag b => ok (if b then 1 else 0)
  | .integer n => if (Number.ofInt n).isInfinite then problem .numberKind else ok (Number.ofInt n)
  | .text (.plain s) => ofText s
  | .text (.broken ..) => problem .textEncoding
  | .bytes content =>
    match decoded? content with
    | some s => ofText s
    | none => problem .numberText
  | _ => problem .numberKind
where
  /-- Reads a text as a number. -/
  ofText (s : String) : Checked Number :=
    match Numeral.fieldNumber? s.toList with
    | some x => ok x
    | none => problem .numberText

/-- The whole number that a number is, between the limits of 64 bits. -/
def wholePart (x : Number) : Checked Int :=
  match x with
  | .nan | .infinity _ => problem .integerInfinite
  | .finite negative units _ =>
    if units % unitsPerOne ≠ 0 then problem .integerFraction
    else
      let n := Number.signed negative (units / unitsPerOne)
      if n.natAbs < twoPow 63 then ok n else problem .integerSize

/-- A whole number. -/
def integer : Value → Checked Int
  | .integer n => ok n
  | .flag b => ok (if b then 1 else 0)
  | .number x => wholePart x
  | .text (.plain s) => ofText s
  | .text (.broken ..) => problem .textEncoding
  | .bytes content =>
    match decoded? content with
    | some s => ofText s
    | none => problem .integerText
  | _ => problem .integerKind
where
  /-- Reads a text as a whole number. -/
  ofText (s : String) : Checked Int :=
    match Numeral.fieldInteger s.toList with
    | .ok n => ok n
    | .error .malformed => problem .integerText
    | .error (.tooManyDigits _) => problem .integerSize

/-- A whole number between two limits. -/
def integerBetween (least most : Int) (value : Value) : Checked Int :=
  (integer value).andThen fun n =>
    if n < least then problem (.tooSmall least)
    else if most < n then problem (.tooLarge most)
    else ok n

/-- A text. -/
def text : Value → Checked Text
  | .text t => ok t
  | .bytes content =>
    match decoded? content with
    | some s => ok s
    | none => problem .textEncoding
  | _ => problem .textKind

/-- A text with at least one character. The characters are counted, so they
must be all there is. -/
def nonEmptyText (value : Value) : Checked String :=
  (text value).andThen fun
    | .plain "" => problem .textTooShort
    | .plain s => ok s
    | .broken .. => problem .textEncoding

/-- A list of items, each of which is checked. -/
def sequence {α : Type} (check : Value → Checked α) : Value → Checked (List α)
  | .list items => each check 0 items
  | .tuple items => each check 0 items
  | _ => problem .sequenceKind

/-- A value, or nothing. -/
def optional {α : Type} (check : Value → Checked α) : Value → Checked (Option α)
  | .absent => ok none
  | value => (check value).map some

/-- A text that is looked up among the names of something. -/
def name? : Value → Option String
  | .text (.plain s) => some s
  | .bytes content => decoded? content
  | _ => none

/-- An identifier: one already, one of its texts, or its sixteen bytes. -/
def uuid : Value → Checked Uuid
  | .uuid id => ok id
  | .text (.plain s) =>
    match Uuid.ofText? s.toList with
    | some id => ok id
    | none => problem .uuidText
  | .text (.broken ..) => problem .textEncoding
  | .bytes content =>
    match ((decoded? content).bind fun s => Uuid.ofText? s.toList).or (Uuid.ofBytes? content) with
    | some id => ok id
    | none => problem .uuidText
  | _ => problem .uuidKind

end CommandMetrics.Coercion
