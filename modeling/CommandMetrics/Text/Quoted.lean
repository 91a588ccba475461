import CommandMetrics.Text.Basic
import CommandMetrics.Text.Printable
/-!
# Quoted texts — how a message shows a text or bytes

A quoted text stands between single quotes, or between double quotes when
it holds single ones and no double one. Inside, the backslash and the
quote in use are escaped, and whatever is not printable is written by its
number.
-/

namespace CommandMetrics.Quoted

/-- A lower-case hexadecimal number of at least `width` digits. -/
def hex (width n : Nat) : List Char :=
  let digits := Nat.toDigits 16 n
  List.replicate (width - digits.length) '0' ++ digits

/-- The quote a text is put between. -/
def quoteFor (text : List Char) : Char :=
  if text.contains '\'' && !text.contains '"' then '"' else '\''

/-- The escapes common to texts and bytes. -/
def escape? (quote c : Char) : Option (List Char) :=
  if c = quote ∨ c = '\\' then some ['\\', c]
  else if c = '\t' then some ['\\', 't']
  else if c = '\n' then some ['\\', 'n']
  else if c = '\r' then some ['\\', 'r']
  else none

/-- One character inside a quoted text. -/
def char (quote c : Char) : List Char :=
  (escape? quote c).getD <|
    if isPrintable c then [c]
    else if c.toNat < 0x100 then '\\' :: 'x' :: hex 2 c.toNat
    else if c.toNat < 0x10000 then '\\' :: 'u' :: hex 4 c.toNat
    else '\\' :: 'U' :: hex 8 c.toNat

/-- A surrogate, which has no letter to stand for it. -/
def surrogate (half : Surrogate) : String := String.ofList ('\\' :: 'u' :: hex 4 half.number)

/-- The inside of a quoted text. -/
def inside (quote : Char) : Text → List Char
  | .plain s => s.toList.flatMap (char quote)
  | .broken start half rest =>
    start.toList.flatMap (char quote) ++ (surrogate half).toList ++ inside quote rest

/-- **A text in quotes.** -/
def text (t : Text) : String :=
  let quote := quoteFor t.chars
  String.ofList (quote :: inside quote t ++ [quote])

/-- A text without quotes, as it is but for its surrogates. -/
def escaped : Text → String
  | .plain s => s
  | .broken start half rest => start ++ surrogate half ++ escaped rest

/-- One byte inside quoted bytes: only the printable ones of seven bits
stand for themselves. -/
def byte (quote : Char) (b : UInt8) : List Char :=
  let c := Char.ofNat b.toNat
  (escape? quote c).getD <|
    if 0x20 ≤ b.toNat && b.toNat < 0x7F then [c] else '\\' :: 'x' :: hex 2 b.toNat

/-- **Bytes in quotes**, after the letter that marks them. -/
def bytes (content : List UInt8) : String :=
  let quote := quoteFor (content.map fun b => Char.ofNat b.toNat)
  String.ofList ('b' :: quote :: content.flatMap (byte quote) ++ [quote])

end CommandMetrics.Quoted
