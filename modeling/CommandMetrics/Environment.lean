import CommandMetrics.Config
import CommandMetrics.Failure
/-!
# Environment — a configuration read from variables

Bounds are written as numerals with commas between them, the port as one
numeral. A variable that is blank counts as one that is not set, and so
does a blank piece between two commas. What can be read goes through the
same checks as a configuration built from fields.
-/

namespace CommandMetrics

/-- The variables of an environment. -/
abbrev Environment := List (String × Value)

namespace Environment

/-- The variable of the bounds. -/
def boundsVariable : String := "HYSTRIX_METRICS_DURATION_BUCKETS"

/-- The variable of the port. -/
def portVariable : String := "HYSTRIX_METRICS_PORT"

/-- What a variable is set to, without the blanks around it. -/
inductive Setting where
  | text (content : List Point)
  | bytes (content : List UInt8)
  deriving DecidableEq

/-- The setting of a variable; one that is not set is empty. -/
def setting (env : Environment) (name : String) : Except Fault Setting :=
  match env.lookup name with
  | none => .ok (.text [])
  | some (.text t) => .ok (.text (trimmed Point.isBlank t.points))
  | some (.bytes content) => .ok (.bytes (trimmed isBlankByte content))
  | some _ => .error .noSuchPart
where
  /-- Whether a byte is white space in ASCII. -/
  isBlankByte (b : UInt8) : Bool := b == 0x20 || (9 ≤ b && b ≤ 13)

/-- The pieces of a text between its commas. -/
def pieces : List Point → List (List Point)
  | [] => [[]]
  | p :: rest =>
    if p = .char ',' then [] :: pieces rest
    else
      match pieces rest with
      | [] => [[p]]
      | first :: more => (p :: first) :: more

/-- A text as a number, if it is one. -/
def number? (text : List Point) : Option Number := Numeral.number? (text.map Point.letter)

/-- A text as a whole number, if it is one. -/
def integer (text : List Point) : Except Numeral.IntegerError Int :=
  Numeral.integer (text.map Point.letter)

/-- A piece as a number. -/
def piece (text : List Point) : Except Fault Number :=
  match number? text with
  | some x => .ok x
  | none => .error (.numeral (Quoted.text (.ofPoints text)))

/-- **The bounds that a text lists**: its pieces, save for blank ones. -/
def listed (text : List Point) : Except Fault (List Number) :=
  ((pieces text).filter fun p => !(trimmed Point.isBlank p).isEmpty).mapM piece

/-- The longest that a message shows of what is no whole number. -/
def shownLimit : Nat := 200

/-- What is wrong with a whole number, and how it is shown. -/
def wholeFault (shown : String) : Numeral.IntegerError → Fault
  | .malformed => .wholeNumeral (String.ofList (shown.toList.take shownLimit))
  | .tooManyDigits count => .tooManyDigits count

/-- A setting as a whole number. Of bytes that are none, a message shows no
more than the first ones, in the quotes that those need. -/
def whole : Setting → Except Fault Int
  | .text content => (integer content).mapError (wholeFault (Quoted.text (.ofPoints content)))
  | .bytes content =>
    (Numeral.integer (Numeral.ofBytes content)).mapError
      (wholeFault (Quoted.bytes (content.take shownLimit)))

/-- The bounds of an environment, if they are set. -/
def bounds? : Setting → Except Failure (Option (List Number))
  | .text [] | .bytes [] => .ok none
  | .bytes _ => .error (.fault .bytesExpected)
  | .text content =>
    match listed content with
    | .ok bounds => .ok (some bounds)
    | .error fault =>
      .error (.badVariable boundsVariable "a comma separated list of numbers" fault)

/-- The port of an environment, if it is set. -/
def port? : Setting → Except Failure (Option Int)
  | .text [] | .bytes [] => .ok none
  | given =>
    match whole given with
    | .ok port => .ok (some port)
    | .error fault => .error (.badVariable portVariable "an integer" fault)

/-- Reads both variables. -/
def settings (env : Environment) : Except Fault (Setting × Setting) := do
  let bounds ← env.setting boundsVariable
  let port ← env.setting portVariable
  return (bounds, port)

/-- **The configuration of an environment.** The bounds are read first, so
when both variables are faulty the fault of the bounds is told. -/
def config (env : Environment) : Except Failure Config :=
  match env.settings with
  | .error fault => .error (.fault fault)
  | .ok (boundsSetting, portSetting) => do
    let bounds ← bounds? boundsSetting
    let port ← port? portSetting
    match Config.ofFields (Config.mk bounds port).toFields with
    | .ok config => .ok config
    | .error rejection => .error (.badEnvironment rejection)

end Environment

end CommandMetrics
