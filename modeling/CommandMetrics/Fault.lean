import CommandMetrics.Numeral
import CommandMetrics.Validation
/-!
# Faults — what goes wrong below the metrics themselves

A fault is a cause: a value of the wrong kind, a numeral that is none, a
name that is taken. Its words are in `Fault.message?`, and nowhere else.
-/

namespace CommandMetrics

/-- What can go wrong. -/
inductive Fault where
  /-- A value of this kind is no duration. -/
  | notADuration (kind : String)
  /-- A whole number is beyond every number. -/
  | tooLarge
  /-- A value of this kind has no items. -/
  | notIterable (kind : String)
  /-- A value of this kind is no number. -/
  | notNumeric (kind : String)
  /-- A text or bytes, as shown, are no numeral. -/
  | numeral (shown : String)
  /-- A text or bytes, as shown, are no numeral of a whole number. -/
  | wholeNumeral (shown : String)
  /-- A numeral has more digits than are read. -/
  | tooManyDigits (count : Nat)
  | bounds (error : BoundsError)
  | layout (error : Bounds.LayoutError)
  /-- A value, as shown, is none of an enumeration. -/
  | notAMember (shown enumeration : String)
  /-- There is no such part. -/
  | noSuchPart
  /-- Bytes were cut at a text. -/
  | bytesExpected
  /-- There is no series of a name, as shown. -/
  | noSuchSeries (shown : String)
  /-- A value of this kind is no key. -/
  | notAKey (kind : String)
  /-- A metric, as shown, is not in the registry. -/
  | notRegistered (shown : String)
  | emptyMetricName
  /-- Nothing is left of a metric's name without its suffix. -/
  | emptyFamilyName
  /-- A label has a name that is kept for internal use. -/
  | internalLabel (name : String)
  /-- A label has a name that its metric uses itself. -/
  | ownLabel (name : String)
  /-- The names that a registration would take a second time. -/
  | duplicateNames (names : List String)
  | rejected (rejection : Rejection)
  | notAFactory
  /-- A factory gave up on a command. -/
  | factoryFailed (name : Text)
  /-- A text has a surrogate, for which there are no bytes. -/
  | unencodable
  /-- A value of this kind was called. -/
  | notCallable (kind : String)
  /-- A call with the wrong number of arguments. -/
  | arguments (words : String)
  /-- The endpoint could not be started. -/
  | endpoint (reason : String)
  /-- A value of this kind is no port. -/
  | notAPort (kind : String)
  | nanPort
  | infinitePort
  /-- A reason in the words of the caller. -/
  | stated (words : String)
  deriving DecidableEq

namespace Fault

/-- **The words for a fault**, where it has words of its own. Those for a text
that cannot be encoded count the characters in front of the surrogate, and so
depend on how long the moments in it are written. -/
def message? : Fault → Option String
  | notADuration kind => some ("duration must be a timedelta or number of seconds, got " ++ kind)
  | tooLarge => some "int too large to convert to float"
  | notIterable kind => some ("'" ++ kind ++ "' object is not iterable")
  | notNumeric kind =>
    some ("float() argument must be a string or a real number, not '" ++ kind ++ "'")
  | numeral shown => some ("could not convert string to float: " ++ shown)
  | wholeNumeral shown => some ("invalid literal for int() with base 10: " ++ shown)
  | tooManyDigits count =>
    some (s!"Exceeds the limit ({Numeral.digitLimit} digits) for integer string conversion: "
      ++ s!"value has {count} digits; use sys.set_int_max_str_digits() to increase the limit")
  | bounds error => some error.message
  | layout error => some error.message
  | notAMember shown enumeration => some (shown ++ " is not a valid " ++ enumeration)
  | noSuchPart => none
  | bytesExpected => some "a bytes-like object is required, not 'str'"
  | noSuchSeries shown => some shown
  | notAKey kind => some ("unhashable type: '" ++ kind ++ "'")
  | notRegistered shown => some shown
  | emptyMetricName => some "Metric name should not be empty"
  | emptyFamilyName => some "metric name cannot be empty"
  | internalLabel name => some ("Reserved label metric name: " ++ name)
  | ownLabel name => some ("Reserved label methe fric name: " ++ name)
  | duplicateNames names =>
    some ("Duplicated timeseries in CollectorRegistry: " ++ ", ".intercalate names)
  | rejected rejection => some rejection.headline
  | notAFactory => some "metric collector factory must be callable"
  | factoryFailed name => some ("factory failed for " ++ Quoted.escaped name)
  | unencodable => none
  | notCallable kind => some ("'" ++ kind ++ "' object is not callable")
  | arguments words => some words
  | endpoint reason => some reason
  | notAPort kind => some ("%d format: a real number is required, not " ++ kind)
  | nanPort => some "cannot convert float NaN to integer"
  | infinitePort => some "cannot convert float infinity to integer"
  | stated words => some words

/-- A call that was given an argument of one name twice. `role` tells the
kind of argument. -/
def givenTwice (called role name : String) : Fault :=
  .arguments (called ++ "() got multiple values for " ++ role ++ " '" ++ name ++ "'")

/-- The words for a fault, or none at all. -/
def message (f : Fault) : String := f.message?.getD ""

end Fault

end CommandMetrics
