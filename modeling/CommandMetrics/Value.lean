import CommandMetrics.Number.Layout
import CommandMetrics.Uuid
/-!
# Values — what callers hand in

Names, durations, bounds and settings arrive untyped: a caller may pass
anything, and what it passed decides which error it gets. A `Value` is
anything that can arrive. The module says what kind a value is, whether it
counts as given, what it yields when it is run through item by item, and
how it is shown.
-/

namespace CommandMetrics

/-- Anything a caller can hand in. -/
inductive Value where
  /-- Nothing: what a caller passes to leave an optional part out. -/
  | absent
  | flag (b : Bool)
  | integer (n : Int)
  | number (x : Number)
  | text (t : Text)
  | bytes (content : List UInt8)
  | list (items : List Value)
  | tuple (items : List Value)
  | dictionary (entries : List (String × Value))
  /-- A span of time, in microseconds. -/
  | span (microseconds : Int)
  | uuid (id : Uuid)
  deriving Inhabited

namespace Value

/-- The name of a value's kind, as messages give it. -/
def kind : Value → String
  | absent => "NoneType"
  | flag _ => "bool"
  | integer _ => "int"
  | number _ => "float"
  | text _ => "str"
  | bytes _ => "bytes"
  | list _ => "list"
  | tuple _ => "tuple"
  | dictionary _ => "dict"
  | span _ => "timedelta"
  | uuid _ => "UUID"

/-- The longer name of a value's kind, which some messages give instead:
it differs for spans of time only. -/
def longKind : Value → String
  | span _ => "datetime.timedelta"
  | v => v.kind

/-- Whether a value counts as given: zeros and whatever is empty do not. -/
def isGiven : Value → Bool
  | absent => false
  | flag b => b
  | integer n => n != 0
  | number x => !x.same .zero
  | text t => t != .plain ""
  | bytes content => !content.isEmpty
  | list items => !items.isEmpty
  | tuple items => !items.isEmpty
  | dictionary entries => !entries.isEmpty
  | span microseconds => microseconds != 0
  | uuid _ => true

/-- The items of a value that can be run through: the code points of a
text, the numbers of the bytes, the keys of a dictionary. -/
def items? : Value → Option (List Value)
  | text t => some (t.points.map fun p => .text (.ofPoints [p]))
  | bytes content => some (content.map fun b => .integer b.toNat)
  | list items => some items
  | tuple items => some items
  | dictionary entries => some (entries.map fun entry => .text entry.1)
  | _ => none

/-! ## Showing values -/

/-- A natural number of at least two digits. -/
def twoDigits (n : Nat) : String :=
  if n < 10 then "0" ++ toString n else toString n

/-- A natural number of at least six digits. -/
def sixDigits (n : Nat) : String :=
  let digits := Nat.toDigits 10 n
  String.ofList (List.replicate (6 - digits.length) '0' ++ digits)

/-- The whole days of a span, its seconds below a day and its microseconds
below a second; only the days can be negative. -/
def spanParts (microseconds : Int) : Int × Nat × Nat :=
  let days := microseconds / 86400000000
  let rest := (microseconds % 86400000000).toNat
  (days, rest / 1000000, rest % 1000000)

/-- A span on its own: the days if there are any, then the clock. -/
def spanText (microseconds : Int) : String :=
  let (days, seconds, micros) := spanParts microseconds
  let day :=
    if days = 0 then ""
    else toString days ++ (if days.natAbs = 1 then " day, " else " days, ")
  let clock := toString (seconds / 3600) ++ ":" ++ twoDigits (seconds / 60 % 60) ++ ":"
    ++ twoDigits (seconds % 60)
  day ++ clock ++ (if micros = 0 then "" else "." ++ sixDigits micros)

/-- A span inside another value: the parts that are not zero, by name. -/
def spanCall (microseconds : Int) : String :=
  let (days, seconds, micros) := spanParts microseconds
  let parts :=
    (if days = 0 then [] else ["days=" ++ toString days])
      ++ (if seconds = 0 then [] else ["seconds=" ++ toString seconds])
      ++ (if micros = 0 then [] else ["microseconds=" ++ toString micros])
  "datetime.timedelta(" ++ (if parts.isEmpty then "0" else ", ".intercalate parts) ++ ")"

mutual

/-- **How a value is shown** in a message or inside another value: texts
are quoted. -/
def shown : Value → String
  | absent => "None"
  | flag b => if b then "True" else "False"
  | integer n => toString n
  | number x => x.text
  | text t => Quoted.text t
  | bytes content => Quoted.bytes content
  | list items => "[" ++ ", ".intercalate (shownAll items) ++ "]"
  | tuple items =>
    match shownAll items with
    | [one] => "(" ++ one ++ ",)"
    | all => "(" ++ ", ".intercalate all ++ ")"
  | dictionary entries => "\x7b" ++ ", ".intercalate (shownEntries entries) ++ "\x7d"
  | span microseconds => spanCall microseconds
  | uuid id => "UUID('" ++ id.text ++ "')"

/-- The items of a list or a tuple. -/
def shownAll : List Value → List String
  | [] => []
  | item :: rest => shown item :: shownAll rest

/-- The entries of a dictionary. -/
def shownEntries : List (String × Value) → List String
  | [] => []
  | (key, item) :: rest => (Quoted.text key ++ ": " ++ shown item) :: shownEntries rest

end

/-- **A value as a text of its own**: a text stands for itself, a span
reads as a clock, an identifier is bare. -/
def asText : Value → Text
  | text t => t
  | span microseconds => spanText microseconds
  | uuid id => id.text
  | v => v.shown

/-- A text is its own text, so a command keeps its name as its label. -/
@[simp] theorem asText_text (t : Text) : asText (text t) = t := rfl

end Value

end CommandMetrics
