/-!
# Blank characters — what is ignored around a text

Two sets are in use. A numeral may be surrounded by *white space*. A
setting of the environment is first freed of everything *blank*, which
adds the four separators of files, groups, records and units.
-/

namespace CommandMetrics

/-- White space, in the sense of the character standard. -/
def isWhite (c : Char) : Bool :=
  let n := c.toNat
  (9 ≤ n && n ≤ 13) || n == 0x20 || n == 0x85 || n == 0xA0 || n == 0x1680
    || (0x2000 ≤ n && n ≤ 0x200A) || n == 0x2028 || n == 0x2029 || n == 0x202F
    || n == 0x205F || n == 0x3000

/-- White space, or one of the four information separators. -/
def isBlank (c : Char) : Bool :=
  isWhite c || (0x1C ≤ c.toNat && c.toNat ≤ 0x1F)

theorem isBlank_of_isWhite {c : Char} (h : isWhite c = true) : isBlank c = true := by
  simp [isBlank, h]

/-- A text without what satisfies a test at both of its ends. -/
def trimmed {α : Type} (ignored : α → Bool) (text : List α) : List α :=
  ((text.dropWhile ignored).reverse.dropWhile ignored).reverse

end CommandMetrics
