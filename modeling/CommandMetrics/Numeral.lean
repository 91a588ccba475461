import CommandMetrics.Number.Decimal
import CommandMetrics.Text.Blank
import CommandMetrics.Text.DecimalDigit
/-!
# Numerals — texts that are read as numbers

Numerals come from two places that agree on the core and differ around
it. A *setting* may be written in the digits of any script, with white
space around it and single underscores between digits. A *field* of a
model takes the ten ASCII digits only and is less strict on underscores:
they may stand anywhere inside, as long as no two of them meet. As a whole
number it takes a fraction of zeros as well, and any zeros in front, behind
which the minus may stand too.
-/

namespace CommandMetrics.Numeral

/-! ## The core -/

/-- A numeral without its underscores, or nothing where one of them does
not stand between two digits. `afterDigit` says whether the character
before was a digit. -/
def joined? (afterDigit : Bool) : List Char → Option (List Char)
  | [] => some []
  | c :: rest =>
    if c = '_' then
      if afterDigit && (rest.head?.map Char.isDigit).getD false then joined? false rest else none
    else (joined? c.isDigit rest).map (c :: ·)

/-- The sign in front of a numeral, and what follows it. -/
def sign : List Char → Bool × List Char
  | '-' :: rest => (true, rest)
  | '+' :: rest => (false, rest)
  | rest => (false, rest)

/-- The natural number written by a run of digits. -/
def natural (digits : List Char) : Nat :=
  digits.foldl (fun n c => 10 * n + (c.toNat - '0'.toNat)) 0

/-- The exponent at the end of a numeral: none, or the letter `e` and a
whole number. -/
def exponent? : List Char → Option Int
  | [] => some 0
  | letter :: rest =>
    let (negative, digits) := sign rest
    if (letter = 'e' ∨ letter = 'E') ∧ !digits.isEmpty ∧ digits.all Char.isDigit then
      some (if negative then -(natural digits : Int) else natural digits)
    else none

/-- Digits around an optional point, at least one in all, and an optional
exponent. -/
def decimal? (text : List Char) : Option Decimal :=
  let whole := text.takeWhile Char.isDigit
  let afterWhole := text.dropWhile Char.isDigit
  let (fraction, rest) :=
    match afterWhole with
    | '.' :: more => (more.takeWhile Char.isDigit, more.dropWhile Char.isDigit)
    | _ => ([], afterWhole)
  if whole.isEmpty && fraction.isEmpty then none
  else (exponent? rest).map fun e => ⟨natural (whole ++ fraction), e - fraction.length⟩

/-- A numeral without white space and underscores: a signed decimal, or
the name of a number that has no digits, in either case of letters. -/
def plain? (text : List Char) : Option Number :=
  let (negative, magnitude) := sign text
  let name := String.ofList (magnitude.map Char.toLower)
  if name = "inf" ∨ name = "infinity" then some (.infinity negative)
  else if name = "nan" then some .nan
  else (decimal? magnitude).map (Number.ofDecimal negative)

/-! ## Settings -/

/-- A setting in ASCII: digits of other scripts become the ten ASCII ones,
white space outside of ASCII becomes a space. -/
def ascii (c : Char) : Char :=
  if c.toNat < 0x7F then c
  else if isWhite c then ' '
  else ((DecimalDigit.value? c).map DecimalDigit.ofValue).getD c

/-- The characters of a setting, in ASCII and without the white space
around them. -/
def setting (text : List Char) : List Char := trimmed isWhite (text.map ascii)

/-- **Reads a setting as a number.** -/
def number? (text : List Char) : Option Number :=
  (joined? false (setting text)).bind plain?

/-- Why a setting is no whole number. -/
inductive IntegerError where
  /-- It is no numeral. -/
  | malformed
  /-- It has more digits than are read. -/
  | tooManyDigits (count : Nat)
  deriving DecidableEq, Repr

/-- The most digits that are read as a whole number. -/
def digitLimit : Nat := 4300

/-- **Reads a setting as a whole number.** The run of digits comes first;
only when it is in order and not too long does what stands after it
count. -/
def integer (text : List Char) : Except IntegerError Int :=
  let (negative, rest) := sign (setting text)
  let isRun (c : Char) := c.isDigit || c == '_'
  match joined? false (rest.takeWhile isRun) with
  | none | some [] => .error .malformed
  | some digits =>
    if digitLimit < digits.length then .error (.tooManyDigits digits.length)
    else if rest.dropWhile isRun ≠ [] then .error .malformed
    else .ok (if negative then -(natural digits : Int) else natural digits)

/-- Bytes as the text of a setting: outside of ASCII nothing is a digit or
white space. -/
def ofBytes (content : List UInt8) : List Char :=
  content.map fun b => if b.toNat < 0x80 then Char.ofNat b.toNat else '\x7f'

/-! ## Fields -/

/-- Whether two underscores meet in a text. -/
def hasDouble : List Char → Bool
  | '_' :: '_' :: _ => true
  | _ :: rest => hasDouble rest
  | [] => false

/-- A text without its underscores, or nothing where one of them stands at
an end or next to another. -/
def loosened? (text : List Char) : Option (List Char) :=
  if text.head? = some '_' ∨ text.getLast? = some '_' ∨ hasDouble text then none
  else some (text.filter (· ≠ '_'))

/-- **Reads the text of a field as a number.** White space around it and
underscores in it are not taken together. -/
def fieldNumber? (text : List Char) : Option Number :=
  (plain? (trimmed isWhite text)).or ((loosened? text).bind plain?)

/-- A numeral without the zeros in front of it, among which underscores may
stand. Where nothing else is left of the whole part, its last character
stays. -/
def unpadded : List Char → List Char
  | '0' :: more =>
    let isPadding (c : Char) := c == '0' || c == '_'
    match more.dropWhile isPadding with
    | [] => (('0' :: more).getLast?).toList
    | '.' :: rest => (('0' :: more.takeWhile isPadding).getLast?).toList ++ '.' :: rest
    | rest => rest
  | text => text

/-- A numeral without its fraction, where that is of zeros. -/
def withoutFraction (text : List Char) : List Char :=
  let fraction := (text.dropWhile (· != '.')).drop 1
  if !fraction.isEmpty && fraction.all (· == '0') then text.takeWhile (· != '.') else text

/-- A numeral without the plus in front of it. One in front of a minus
stays, for no numeral has both. -/
def withoutPlus : List Char → List Char
  | '+' :: '-' :: rest => '+' :: '-' :: rest
  | '+' :: rest => rest
  | text => text

/-- A numeral without a sign, as its digits alone: no zeros in front, no
fraction of zeros and no underscores inside. -/
def digitsAlone (text : List Char) : List Char :=
  let significant := withoutFraction (unpadded text)
  (loosened? significant).getD significant

/-- A numeral without whatever may be left out of it. The minus stays. -/
def reduced (text : List Char) : List Char :=
  match withoutPlus (trimmed isWhite text) with
  | '-' :: magnitude => '-' :: digitsAlone magnitude
  | magnitude => digitsAlone magnitude

/-- Reads a whole number from which nothing may be left out: digits behind a
minus or nothing, a zero in front only if it is all there is. A run of
digits that is too long is told before what stands after it. -/
def plainInteger (text : List Char) : Except IntegerError Int :=
  let (negative, magnitude) :=
    match text with
    | '-' :: rest => (true, rest)
    | _ => (false, text)
  let digits := magnitude.takeWhile Char.isDigit
  if digits.isEmpty || (magnitude.head? == some '0' && 1 < magnitude.length) then
    .error .malformed
  else if digitLimit < digits.length then .error (.tooManyDigits digits.length)
  else if digits.length < magnitude.length then .error .malformed
  else .ok (if negative then -(natural digits : Int) else natural digits)

/-- **Reads the text of a field as a whole number**: as it stands or, where
that is no numeral, reduced. Too many digits are told of the text as it
stands only. -/
def fieldInteger (text : List Char) : Except IntegerError Int :=
  match plainInteger text with
  | .error .malformed => (plainInteger (reduced text)).mapError fun _ => .malformed
  | read => read

end CommandMetrics.Numeral
