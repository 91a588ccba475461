import CommandMetrics.Text.Quoted
/-!
# Identifiers of 128 bits

What correlates the records of one request. An identifier is written as
32 hexadecimal digits in five groups; it is read from that form, bare, in
braces or as a URN, from the digits without hyphens, and from its sixteen
bytes.
-/

namespace CommandMetrics

/-- An identifier of 128 bits. -/
structure Uuid where
  value : BitVec 128
  deriving DecidableEq

namespace Uuid

/-- The value of a hexadecimal digit. -/
def hexValue? (c : Char) : Option Nat :=
  if '0' ≤ c ∧ c ≤ '9' then some (c.toNat - '0'.toNat)
  else if 'a' ≤ c ∧ c ≤ 'f' then some (c.toNat - 'a'.toNat + 10)
  else if 'A' ≤ c ∧ c ≤ 'F' then some (c.toNat - 'A'.toNat + 10)
  else none

/-- The value of a text of hexadecimal digits. -/
def ofHex? (digits : List Char) : Option Uuid :=
  (digits.foldlM (fun n c => (hexValue? c).map (16 * n + ·)) 0).map fun n => ⟨BitVec.ofNat 128 n⟩

/-- The lengths of the five groups. -/
def groups : List Nat := [8, 4, 4, 4, 12]

/-- Cuts a text into parts of the given lengths with a hyphen between
them. -/
def cut? : List Nat → List Char → Option (List (List Char))
  | [], [] => some []
  | [n], text => if text.length = n then some [text] else none
  | n :: rest, text =>
    match text.drop n with
    | '-' :: more => (cut? rest more).map ((text.take n) :: ·)
    | _ => none
  | [], _ :: _ => none

/-- Reads the five groups. -/
def ofGroups? (text : List Char) : Option Uuid :=
  (cut? groups text).bind fun parts => ofHex? parts.flatten

/-- The scheme that may stand before the groups. -/
def scheme : List Char := "urn:uuid:".toList

/-- **Reads an identifier**: its length tells which of the forms a text
can have. -/
def ofText? (text : List Char) : Option Uuid :=
  match text.length with
  | 32 => ofHex? text
  | 36 => ofGroups? text
  | 38 =>
    if text.head? = some '\x7b' ∧ text.getLast? = some '\x7d' then ofGroups? (text.drop 1).dropLast
    else none
  | 45 => if text.take 9 = scheme then ofGroups? (text.drop 9) else none
  | _ => none

/-- Reads the sixteen bytes, the first one highest. -/
def ofBytes? (bytes : List UInt8) : Option Uuid :=
  if bytes.length = 16 then
    some ⟨BitVec.ofNat 128 (bytes.foldl (fun n b => 256 * n + b.toNat) 0)⟩
  else none

/-- **The text of an identifier**: five groups in lower case. -/
def text (id : Uuid) : String :=
  let digits := Quoted.hex 32 id.value.toNat
  let part (start length : Nat) := (digits.drop start).take length
  String.ofList <|
    [part 0 8, part 8 4, part 12 4, part 16 4, part 20 12].intersperse ['-'] |>.flatten

end Uuid

end CommandMetrics
