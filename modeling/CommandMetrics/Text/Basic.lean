import CommandMetrics.Text.Blank
/-!
# Texts — characters, and code points that are none

A text that a caller hands in is a sequence of code points. Nearly all of them
are characters; a *surrogate* is not. It is half of what an older encoding
writes for one character, and may stand in a text on its own. Texts with a
surrogate are kept, compared and shown as all others are; only where a text is
encoded, there are no bytes for them (`Text.encode?`).
-/

namespace CommandMetrics

/-- A code point that is no character, by its place among these. -/
structure Surrogate where
  offset : Fin 2048
  deriving DecidableEq, Hashable, Repr

/-- The number of the code point. -/
def Surrogate.number (half : Surrogate) : Nat := 0xD800 + half.offset

/-- A code point. -/
inductive Point where
  | char (c : Char)
  | half (s : Surrogate)
  deriving DecidableEq

namespace Point

/-- A surrogate is no white space, -/
def isWhite : Point → Bool
  | char c => CommandMetrics.isWhite c
  | half _ => false

/-- nor is it blank, -/
def isBlank : Point → Bool
  | char c => CommandMetrics.isBlank c
  | half _ => false

theorem isBlank_of_isWhite {p : Point} (h : p.isWhite = true) : p.isBlank = true := by
  cases p with
  | char c => exact CommandMetrics.isBlank_of_isWhite h
  | half s => cases h

/-- and no numeral has one: it is read as a letter that none has. -/
def letter : Point → Char
  | char c => c
  | half _ => '?'

theorem isWhite_letter {p : Point} (h : p.isWhite = true) :
    CommandMetrics.isWhite p.letter = true := by
  cases p with
  | char c => exact h
  | half s => cases h

end Point

/-- **A text**: characters only, or characters up to a surrogate and the text
behind it. -/
inductive Text where
  | plain (s : String)
  | broken (start : String) (half : Surrogate) (rest : Text)
  deriving DecidableEq, Hashable, Repr, Inhabited

instance : Coe String Text := ⟨.plain⟩

namespace Text

/-- Whether a text is of characters only. -/
def isPlain : Text → Bool
  | plain _ => true
  | broken .. => false

/-- The characters of a text, without its surrogates. -/
def chars : Text → List Char
  | plain s => s.toList
  | broken start _ rest => start.toList ++ rest.chars

/-- The code points of a text. -/
def points : Text → List Point
  | plain s => s.toList.map .char
  | broken start half rest => start.toList.map .char ++ .half half :: rest.points

/-- A text behind another. -/
protected def append : Text → Text → Text
  | plain s, plain t => plain (s ++ t)
  | plain s, broken start half rest => broken (s ++ start) half rest
  | broken start half rest, t => broken start half (rest.append t)

instance : Append Text := ⟨Text.append⟩

@[simp] theorem plain_append_plain (s t : String) : plain s ++ plain t = plain (s ++ t) := rfl

theorem plain_append_broken (s start : String) (half : Surrogate) (rest : Text) :
    plain s ++ broken start half rest = broken (s ++ start) half rest := rfl

theorem broken_append (start : String) (half : Surrogate) (rest t : Text) :
    broken start half rest ++ t = broken start half (rest ++ t) := rfl

@[simp] theorem chars_plain (s : String) : (plain s).chars = s.toList := rfl
@[simp] theorem isPlain_plain (s : String) : (plain s).isPlain = true := rfl

/-- The characters of both parts stand in a text that is put together, -/
@[simp] theorem chars_append (t u : Text) : (t ++ u).chars = t.chars ++ u.chars := by
  induction t with
  | plain s => cases u <;> simp [plain_append_broken, chars, List.append_assoc]
  | broken start half rest ih => simp [broken_append, chars, ih, List.append_assoc]

/-- and so do their code points. -/
theorem points_append (t u : Text) : (t ++ u).points = t.points ++ u.points := by
  induction t with
  | plain s => cases u <;> simp [plain_append_broken, points, List.append_assoc]
  | broken start half rest ih => simp [broken_append, points, ih, List.append_assoc]

/-- It has no surrogate if neither of them has one. -/
@[simp] theorem isPlain_append (t u : Text) : (t ++ u).isPlain = (t.isPlain && u.isPlain) := by
  cases t <;> cases u <;> rfl

/-- The text of some code points. -/
def ofPoints : List Point → Text
  | [] => ""
  | .char c :: rest => .plain (String.singleton c) ++ ofPoints rest
  | .half s :: rest => .broken "" s (ofPoints rest)

/-- **Every sequence of code points is a text**, -/
theorem points_ofPoints (all : List Point) : (ofPoints all).points = all := by
  induction all with
  | nil => rfl
  | cons p rest ih =>
    cases p with
    | char c => simp [ofPoints, points_append, points, ih]
    | half s => simp [ofPoints, points, ih]

theorem ofPoints_map_char (cs : List Char) (rest : List Point) :
    ofPoints (cs.map .char ++ rest) = .plain (String.ofList cs) ++ ofPoints rest := by
  induction cs with
  | nil => cases hrest : ofPoints rest <;> simp [hrest, plain_append_broken]
  | cons c cs ih =>
    cases hrest : ofPoints rest <;>
      simp [ofPoints, ih, hrest, plain_append_broken, String.ofList_cons, String.append_assoc]

/-- **and texts with the same code points are the same.** -/
theorem ofPoints_points (t : Text) : ofPoints t.points = t := by
  induction t with
  | plain s =>
    have hchars := ofPoints_map_char s.toList []
    simpa [points, ofPoints] using hchars
  | broken start half rest ih =>
    rw [points, ofPoints_map_char, ofPoints, ih, plain_append_broken, String.ofList_toList,
      String.append_empty]

/-- Writes the characters of a text in another way, and leaves the surrogates
where they are. -/
def mapPlain (f : List Char → List Char) : Text → Text
  | plain s => plain (String.ofList (f s.toList))
  | broken start half rest => broken (String.ofList (f start.toList)) half (rest.mapPlain f)

@[simp] theorem mapPlain_plain (f : List Char → List Char) (s : String) :
    (plain s).mapPlain f = plain (String.ofList (f s.toList)) := rfl

@[simp] theorem isPlain_mapPlain (f : List Char → List Char) (t : Text) :
    (t.mapPlain f).isPlain = t.isPlain := by
  cases t <;> rfl

/-- What is written never is not in what is written. -/
theorem notMem_chars_mapPlain {f : List Char → List Char} {c : Char} (hf : ∀ all, c ∉ f all)
    (t : Text) : c ∉ (t.mapPlain f).chars := by
  induction t with
  | plain s => simpa using hf s.toList
  | broken start half rest ih => simpa [mapPlain, chars, ih] using hf start.toList

/-- Texts one behind the other. -/
def join : List Text → Text
  | [] => ""
  | t :: rest => t ++ join rest

theorem isPlain_join (all : List Text) : (join all).isPlain = all.all isPlain := by
  induction all with
  | nil => rfl
  | cons t rest ih => rw [join, isPlain_append, ih, List.all_cons]

/-! ## Encoding -/

/-- **The characters of a text that is to be encoded**: there are no bytes for
a surrogate. -/
def encode? : Text → Option String
  | plain s => some s
  | broken .. => none

theorem encode?_eq_some_iff {t : Text} {s : String} : t.encode? = some s ↔ t = s := by
  cases t <;> simp [encode?]

/-- **A text can be encoded exactly if it has no surrogate.** -/
theorem isSome_encode? (t : Text) : t.encode?.isSome = t.isPlain := by
  cases t <;> rfl

end Text

end CommandMetrics
