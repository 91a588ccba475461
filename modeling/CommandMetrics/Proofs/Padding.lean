import CommandMetrics.Proofs.Environment
import CommandMetrics.Host.Registration
import Mathlib.Data.List.DropRight
/-!
# Padding — blanks and blank entries do not count

The bounds of an environment are written with commas between them. White space
around a bound is not read, and neither is an entry that is blank: a text that
is padded in this way lists what the plain one lists (`Padded.map_number?`).
The text is stripped as a whole before it is split, which may cut into its
first and its last entry; what is left is still padded
(`Padded.exists_trimmed`). So loading the one environment or the other comes to
the same (`padding_does_not_count`).
-/

namespace CommandMetrics

/-! ## What is trimmed -/

section Trimmed

variable {α : Type} {ignored : α → Bool} {text around : List α}

/-- What is ignored in front of a text is not left, -/
theorem trimmed_append_left (haround : ∀ c ∈ around, ignored c = true) :
    trimmed ignored (around ++ text) = trimmed ignored text := by
  unfold trimmed
  rw [List.dropWhile_append_of_pos haround]

/-- and neither is what is ignored behind it. -/
theorem trimmed_append_right (haround : ∀ c ∈ around, ignored c = true) :
    trimmed ignored (text ++ around) = trimmed ignored text := by
  have hreverse : ∀ c ∈ around.reverse, ignored c = true := fun c hc =>
    haround c (List.mem_reverse.1 hc)
  unfold trimmed
  rw [List.dropWhile_append]
  split
  · next hnone =>
    rw [List.dropWhile_eq_nil_iff.2 haround, List.isEmpty_iff.1 hnone]
  · rw [List.reverse_append, List.dropWhile_append_of_pos hreverse]

end Trimmed

namespace Numeral

/-- White space stays white in ASCII. -/
theorem isWhite_ascii {c : Char} (h : isWhite c = true) : isWhite (ascii c) = true := by
  unfold ascii
  split
  · exact h
  · rfl

/-- **A number may stand between white space.** -/
theorem number?_spaced {left right : List Char} (hleft : ∀ c ∈ left, isWhite c = true)
    (hright : ∀ c ∈ right, isWhite c = true) (text : List Char) :
    number? (left ++ text ++ right) = number? text := by
  have hascii : ∀ around : List Char, (∀ c ∈ around, isWhite c = true) →
      ∀ c ∈ around.map ascii, isWhite c = true := fun around haround c hc => by
    obtain ⟨c, hmem, rfl⟩ := List.mem_map.1 hc
    exact isWhite_ascii (haround c hmem)
  unfold number? setting
  rw [List.map_append, List.map_append, trimmed_append_right (hascii right hright),
    trimmed_append_left (hascii left hleft)]

end Numeral

namespace Environment

/-! ## Padded texts -/

/-- **A text that stands on its own**: it has no comma, and neither its first
character nor its last one is blank. -/
def Tight (text : List Point) : Prop :=
  Point.char ',' ∉ text ∧ (∃ p ∈ text.head?, p.isBlank = false) ∧
    ∃ p ∈ text.getLast?, p.isBlank = false

/-- A text, and the same text between white space. -/
def Spaced (text entry : List Point) : Prop :=
  ∃ left right, (∀ p ∈ left, p.isWhite = true) ∧ (∀ p ∈ right, p.isWhite = true) ∧
    entry = left ++ text ++ right

-- the white space of ASCII
example : ['\t', '\n', '\x0b', '\x0c', '\r', ' '].all isWhite = true := by decide

/-- **Texts, and the entries of a padded list of them**: there is white space
around the texts, and between them there are blank entries. -/
inductive Padded : List (List Point) → List (List Point) → Prop where
  | nil : Padded [] []
  | blank {texts entries entry} :
    (∀ p ∈ entry, p.isBlank = true) → Padded texts entries → Padded texts (entry :: entries)
  | text {texts entries text entry} :
    Spaced text entry → Padded texts entries → Padded (text :: texts) (entry :: entries)

/-- What is written: the entries with commas between them. -/
def written (entries : List (List Point)) : List Point := [.char ','].intercalate entries

section Entries

variable {text entry : List Point}

/-- Stripping a text in front takes the white space there, -/
theorem Spaced.dropWhile (h : Spaced text entry) (htight : Tight text) :
    Spaced text (entry.dropWhile Point.isBlank) := by
  obtain ⟨left, right, hleft, hright, rfl⟩ := h
  obtain ⟨-, ⟨p, hhead, hp⟩, -⟩ := htight
  obtain ⟨rest, rfl⟩ := List.head?_eq_some_iff.1 hhead
  have hblank : ∀ p ∈ left, p.isBlank = true := fun p hmem =>
    Point.isBlank_of_isWhite (hleft p hmem)
  refine ⟨[], right, List.forall_mem_nil _, hright, ?_⟩
  rw [List.append_assoc, List.dropWhile_append_of_pos hblank, List.cons_append,
    List.dropWhile_cons_of_neg (by simp [hp])]
  rfl

/-- and behind it takes the white space there. -/
theorem Spaced.rdropWhile (h : Spaced text entry) (htight : Tight text) :
    Spaced text (entry.rdropWhile Point.isBlank) := by
  obtain ⟨left, right, hleft, hright, rfl⟩ := h
  obtain ⟨-, -, p, hlast, hp⟩ := htight
  obtain ⟨rest, rfl⟩ := List.getLast?_eq_some_iff.1 hlast
  have hreverse : ∀ p ∈ right.reverse, p.isBlank = true := fun p hmem =>
    Point.isBlank_of_isWhite (hright p (List.mem_reverse.1 hmem))
  refine ⟨left, [], hleft, List.forall_mem_nil _, ?_⟩
  rw [List.rdropWhile, List.reverse_append, List.dropWhile_append_of_pos hreverse,
    ← List.append_assoc, List.reverse_append, List.reverse_singleton, List.singleton_append,
    List.dropWhile_cons_of_neg (by simp [hp]), List.reverse_cons, List.reverse_reverse,
    List.append_nil]

/-- Something is left of a text that stands on its own. -/
theorem Spaced.any_eq_true (h : Spaced text entry) (htight : Tight text) :
    (entry.any fun p => !p.isBlank) = true := by
  obtain ⟨left, right, -, -, rfl⟩ := h
  obtain ⟨-, ⟨p, hhead, hp⟩, -⟩ := htight
  refine List.any_eq_true.2 ⟨p, ?_, by simp [hp]⟩
  simp [List.mem_of_head? hhead]

/-- The text is read as if it stood alone. -/
theorem Spaced.number?_eq (h : Spaced text entry) : number? entry = number? text := by
  obtain ⟨left, right, hleft, hright, rfl⟩ := h
  have hletters : ∀ around : List Point, (∀ p ∈ around, p.isWhite = true) →
      ∀ c ∈ around.map Point.letter, isWhite c = true := fun around haround c hc => by
    obtain ⟨p, hmem, rfl⟩ := List.mem_map.1 hc
    exact Point.isWhite_letter (haround p hmem)
  unfold number?
  rw [List.map_append, List.map_append,
    Numeral.number?_spaced (hletters left hleft) (hletters right hright)]

theorem Spaced.comma_notMem (h : Spaced text entry) (htight : Tight text) :
    Point.char ',' ∉ entry := by
  obtain ⟨left, right, hleft, hright, rfl⟩ := h
  have hwhite : ∀ {around : List Point}, (∀ p ∈ around, p.isWhite = true) →
      Point.char ',' ∉ around := fun haround hmem => absurd (haround _ hmem) (by decide)
  simp [htight.1, hwhite hleft, hwhite hright]

end Entries

namespace Padded

variable {texts entries after : List (List Point)} {entry other : List Point}

/-- Texts that are not padded. -/
theorem refl (texts : List (List Point)) : Padded texts texts := by
  induction texts with
  | nil => exact .nil
  | cons text rest ih =>
    exact .text ⟨[], [], List.forall_mem_nil _, List.forall_mem_nil _, (List.append_nil _).symm⟩ ih

/-- **An entry may be exchanged** for one that stands for the same. -/
theorem exchange (before : List (List Point)) (h : Padded texts (before ++ entry :: after))
    (hblank : (∀ p ∈ entry, p.isBlank = true) → ∀ p ∈ other, p.isBlank = true)
    (hspaced : ∀ text ∈ texts, Spaced text entry → Spaced text other) :
    Padded texts (before ++ other :: after) := by
  induction before generalizing texts with
  | nil =>
    cases h with
    | blank hentry hrest => exact .blank (hblank hentry) hrest
    | text hentry hrest => exact .text (hspaced _ List.mem_cons_self hentry) hrest
  | cons first before ih =>
    cases h with
    | blank hfirst hrest => exact .blank hfirst (ih hrest hspaced)
    | text hfirst hrest =>
      exact .text hfirst (ih hrest fun text hmem => hspaced text (List.mem_cons_of_mem _ hmem))

/-- No entry has a comma in it. -/
theorem comma_notMem (h : Padded texts entries) (htight : ∀ text ∈ texts, Tight text) :
    ∀ entry ∈ entries, Point.char ',' ∉ entry := by
  induction h with
  | nil => exact List.forall_mem_nil _
  | blank hentry _ ih =>
    exact List.forall_mem_cons.2 ⟨fun hmem => absurd (hentry _ hmem) (by decide), ih htight⟩
  | text hentry _ ih =>
    obtain ⟨htext, hrest⟩ := List.forall_mem_cons.1 htight
    exact List.forall_mem_cons.2 ⟨hentry.comma_notMem htext, ih hrest⟩

/-- **The texts are what is left** of the entries without the blank ones. -/
theorem forall₂_filter (h : Padded texts entries) (htight : ∀ text ∈ texts, Tight text) :
    List.Forall₂ Spaced texts (entries.filter fun entry => entry.any fun p => !p.isBlank) := by
  induction h with
  | nil => exact .nil
  | blank hentry _ ih =>
    rw [List.filter_cons_of_neg (by simpa using hentry)]
    exact ih htight
  | text hentry _ ih =>
    obtain ⟨htext, hrest⟩ := List.forall_mem_cons.1 htight
    simp only [List.filter_cons, hentry.any_eq_true htext, if_true]
    exact .cons hentry (ih hrest)

end Padded

/-! ## Stripping what is written -/

/-- One more entry goes behind a comma. -/
theorem written_concat (before : List (List Point)) (hne : before ≠ []) (entry : List Point) :
    written (before ++ [entry]) = written before ++ Point.char ',' :: entry := by
  unfold written
  induction before with
  | nil => exact absurd rfl hne
  | cons first before ih =>
    cases before with
    | nil => simp
    | cons next before =>
      have hrest := ih (List.cons_ne_nil _ _)
      rw [List.cons_append, List.cons_append, List.intercalate_cons_cons, ← List.cons_append, hrest,
        List.intercalate_cons_cons, List.append_assoc, List.append_assoc, List.append_assoc]

/-- Stripping what is written in front strips its first entry, for a comma is
not blank, -/
theorem dropWhile_written (entry : List Point) (after : List (List Point)) :
    (written (entry :: after)).dropWhile Point.isBlank =
      written (entry.dropWhile Point.isBlank :: after) := by
  unfold written
  cases after with
  | nil => rw [List.intercalate_singleton, List.intercalate_singleton]
  | cons next after =>
    rw [List.intercalate_cons_cons, List.intercalate_cons_cons, List.append_assoc,
      List.append_assoc, List.dropWhile_append]
    split
    · next hnone =>
      rw [List.isEmpty_iff.1 hnone]
      exact List.dropWhile_cons_of_neg (by decide)
    · rfl

/-- and stripping it behind strips its last one. -/
theorem rdropWhile_written (before : List (List Point)) (entry : List Point) :
    (written (before ++ [entry])).rdropWhile Point.isBlank =
      written (before ++ [entry.rdropWhile Point.isBlank]) := by
  by_cases hnil : before = []
  · subst hnil
    simp only [written, List.nil_append, List.intercalate_singleton]
  · have hstop : (Point.char ',' :: (written before).reverse).dropWhile Point.isBlank =
        Point.char ',' :: (written before).reverse := List.dropWhile_cons_of_neg (by decide)
    rw [written_concat before hnil, written_concat before hnil, List.rdropWhile, List.rdropWhile,
      List.reverse_append, List.reverse_cons, List.append_assoc, List.singleton_append,
      List.dropWhile_append, hstop]
    split
    · next hnone =>
      rw [List.isEmpty_iff.1 hnone]
      simp
    · simp

namespace Padded

variable {texts entries : List (List Point)}

/-- **Stripped as a whole, a padded list is still one.** -/
theorem exists_trimmed (h : Padded texts entries) (htight : ∀ text ∈ texts, Tight text) :
    ∃ left, Padded texts left ∧ trimmed Point.isBlank (written entries) = written left := by
  cases entries with
  | nil => exact ⟨[], h, rfl⟩
  | cons first after =>
    have hfront : Padded texts (first.dropWhile Point.isBlank :: after) :=
      exchange [] h (fun hblank p hp => hblank p (List.dropWhile_subset _ hp))
        fun text hmem hspaced => hspaced.dropWhile (htight text hmem)
    obtain hnil | ⟨before, last, hsplit⟩ :=
      List.eq_nil_or_concat' (first.dropWhile Point.isBlank :: after)
    · cases hnil
    · rw [hsplit] at hfront
      refine ⟨before ++ [last.rdropWhile Point.isBlank], exchange before hfront
        (fun hblank p hp => hblank p ((List.rdropWhile_prefix _ last).subset hp))
        fun text hmem hspaced => hspaced.rdropWhile (htight text hmem), ?_⟩
      rw [← rdropWhile_written, ← hsplit, ← dropWhile_written]
      rfl

/-- **A padded list lists the same numbers**, and texts that are none in the
same places. -/
theorem map_number? (h : Padded texts entries) (htight : ∀ text ∈ texts, Tight text) :
    (Environment.entries (trimmed Point.isBlank (written entries))).map number? =
      texts.map number? := by
  obtain ⟨left, hleft, htrimmed⟩ := h.exists_trimmed htight
  have hspaced : List.Forall₂ Spaced texts (Environment.entries (written left)) := by
    by_cases hnil : left = []
    · subst hnil
      cases hleft
      exact .nil
    · unfold Environment.entries written
      rw [List.splitOn_intercalate (.char ',') (hleft.comma_notMem htight) hnil]
      exact hleft.forall₂_filter htight
  have hread : List.Forall₂ (· = ·) (texts.map number?)
      ((Environment.entries (written left)).map number?) :=
    List.forall₂_map_left_iff.2
      (List.forall₂_map_right_iff.2 (hspaced.imp fun _ _ hentry => hentry.number?_eq.symm))
  rw [List.forall₂_eq_eq_eq] at hread
  rw [htrimmed, hread]

/-- Something is left of texts that stand on their own. -/
theorem trimmed_ne_nil (h : Padded texts entries) (htight : ∀ text ∈ texts, Tight text)
    (hne : texts ≠ []) : trimmed Point.isBlank (written entries) ≠ [] := by
  intro hnil
  have hread := h.map_number? htight
  rw [hnil] at hread
  exact hne (List.map_eq_nil_iff.1 hread.symm)

end Padded

/-! ## What is loaded -/

/-- **The same outcome**: the same result, or failures that blame the bounds in
the same words and context. Their causes quote what was written and may
differ. -/
inductive SameOutcome {α : Type} : Except Failure α → Except Failure α → Prop where
  | same (result : Except Failure α) : SameOutcome result result
  | unreadable (e : AdapterError) (cause other : Option Fault) :
    e.details.lookup "variable" = some (.text boundsVariable) →
      SameOutcome (.error (.adapter { e with cause })) (.error (.adapter { e with cause := other }))

theorem SameOutcome.bind {α β : Type} {x y : Except Failure α} (h : SameOutcome x y)
    (next : α → Except Failure β) : SameOutcome (x >>= next) (y >>= next) := by
  cases h with
  | same result => exact .same _
  | unreadable e cause other hblamed => exact .unreadable e cause other hblamed

section Outcome

variable {plain padded : Environment} {text other : List Point}

/-- **Texts that list the same are read alike.** -/
theorem sameOutcome_bounds? (hne : text ≠ []) (hother : other ≠ [])
    (hread : (entries text).map number? = (entries other).map number?) :
    SameOutcome (bounds? (.text text)) (bounds? (.text other)) := by
  have hunreadable : ∀ listed, UnreadableBounds listed ↔
      none ∈ (entries listed).map number? := fun _ => List.mem_map.symm
  have hnumbers : ∀ listed, numbers listed =
      ((entries listed).map number?).filterMap id := fun listed => by
    rw [List.filterMap_map]
    rfl
  by_cases h : UnreadableBounds text
  · obtain ⟨fault, hfault⟩ := exists_bounds?_eq_error h
    rw [hunreadable, hread, ← hunreadable] at h
    obtain ⟨fault', hfault'⟩ := exists_bounds?_eq_error h
    rw [hfault, hfault']
    exact .unreadable ⟨_, _, _, _, none⟩ (some fault) (some fault') rfl
  · have h' := h
    rw [hunreadable, hread, ← hunreadable] at h'
    rw [bounds?_of_readable h, bounds?_of_readable h', boundsOf, boundsOf, if_neg hne,
      if_neg hother, hnumbers, hnumbers, hread]
    exact .same _

/-- A variable that is set to the same value has the same setting. -/
theorem setting_congr {name : String} (h : plain.lookup name = padded.lookup name) :
    plain.setting name = padded.setting name := by
  unfold setting
  rw [h]

theorem setting_of_text {name : String} {t : Text} (h : plain.lookup name = some (.text t)) :
    plain.setting name = .ok (.text (trimmed Point.isBlank t.points)) := by
  unfold setting
  rw [h]

/-- **Environments whose bounds list the same**, and whose ports are the same,
come to the same. -/
theorem sameOutcome_config (hplain : plain.setting boundsVariable = .ok (.text text))
    (hpadded : padded.setting boundsVariable = .ok (.text other))
    (hport : plain.setting portVariable = padded.setting portVariable)
    (hbounds : SameOutcome (bounds? (.text text)) (bounds? (.text other))) :
    SameOutcome plain.config padded.config := by
  unfold config settings
  rw [hplain, hpadded, hport]
  cases padded.setting portVariable with
  | error fault => exact .same _
  | ok port => exact hbounds.bind _

end Outcome

/-- **Padding does not count.** Take some texts, at least one, that stand on
their own, and any padded list of them. An environment in which the variable of
the bounds is the padded list comes to the same, whatever its port, as one in
which it is the texts with commas between them: the same configuration, which is
logged, or a failure of the same words, blamed on the same variable. -/
theorem padding_does_not_count {texts entries : List (List Point)} (hne : texts ≠ [])
    (htight : ∀ text ∈ texts, Tight text) (hlist : Padded texts entries)
    {plain padded : Environment}
    (hplain : plain.lookup boundsVariable = some (.text (.ofPoints (written texts))))
    (hpadded : padded.lookup boundsVariable = some (.text (.ofPoints (written entries))))
    (hport : plain.lookup portVariable = padded.lookup portVariable) (h : Host) :
    (h.loadConfig plain).1 = (h.loadConfig padded).1 ∧
      SameOutcome (h.loadConfig plain).2 (h.loadConfig padded).2 := by
  have hread := (Padded.refl texts).map_number? htight
  rw [← hlist.map_number? htight] at hread
  have houtcome : SameOutcome plain.config padded.config := by
    refine sameOutcome_config (setting_of_text hplain) (setting_of_text hpadded)
      (setting_congr hport) ?_
    rw [Text.points_ofPoints, Text.points_ofPoints]
    exact sameOutcome_bounds? ((Padded.refl texts).trimmed_ne_nil htight hne)
      (hlist.trimmed_ne_nil htight hne) hread
  unfold Host.loadConfig
  generalize plain.config = result, padded.config = padded at houtcome ⊢
  cases houtcome with
  | same result => exact ⟨rfl, .same _⟩
  | unreadable e cause other hblamed => exact ⟨rfl, .unreadable e cause other hblamed⟩

/-- A padded list of three bounds is loaded as the plain one. -/
theorem padding_does_not_count_timeouts :
    ∃ plain padded : Environment,
      plain.lookup boundsVariable = some (.text "0.5,1_0,inf") ∧
      padded.lookup boundsVariable = some (.text " ,\t0.5,,1_0\n\x0c ,\r\x0binf,\x1f") ∧
      (Host.initial.loadConfig plain).1 = (Host.initial.loadConfig padded).1 ∧
      SameOutcome (Host.initial.loadConfig plain).2 (Host.initial.loadConfig padded).2 ∧
      (Host.initial.loadConfig padded).2.isOk = true := by
  let texts := [Text.points "0.5", Text.points "1_0", Text.points "inf"]
  let plain : Environment := [(boundsVariable, .text "0.5,1_0,inf"), (portVariable, .text "9100")]
  let padded : Environment := [(portVariable, .text "9100"),
    (boundsVariable, .text " ,\t0.5,,1_0\n\x0c ,\r\x0binf,\x1f")]
  have htight : ∀ text ∈ texts, Tight text := by
    refine List.forall_mem_cons.2 ⟨⟨by decide, ⟨.char '0', rfl, rfl⟩, .char '5', rfl, rfl⟩, ?_⟩
    refine List.forall_mem_cons.2 ⟨⟨by decide, ⟨.char '1', rfl, rfl⟩, .char '0', rfl, rfl⟩, ?_⟩
    exact List.forall_mem_singleton.2 ⟨by decide, ⟨.char 'i', rfl, rfl⟩, .char 'f', rfl, rfl⟩
  have hlist : Padded texts [Text.points " ", Text.points "\t0.5", [],
      Text.points "1_0\n\x0c ", Text.points "\r\x0binf", Text.points "\x1f"] := by
    have hfirst : Spaced (Text.points "0.5") (Text.points "\t0.5") :=
      ⟨[.char '\t'], [], List.all_eq_true.1 rfl, List.forall_mem_nil _, rfl⟩
    have hsecond : Spaced (Text.points "1_0") (Text.points "1_0\n\x0c ") :=
      ⟨[], [.char '\n', .char '\x0c', .char ' '], List.forall_mem_nil _,
        List.all_eq_true.1 rfl, rfl⟩
    have hthird : Spaced (Text.points "inf") (Text.points "\r\x0binf") :=
      ⟨[.char '\r', .char '\x0b'], [], List.all_eq_true.1 rfl, List.forall_mem_nil _, rfl⟩
    have hspace : ∀ p ∈ Text.points " ", p.isBlank = true := List.all_eq_true.1 rfl
    have hseparator : ∀ p ∈ Text.points "\x1f", p.isBlank = true := List.all_eq_true.1 rfl
    exact .blank hspace <| .text hfirst <| .blank (List.forall_mem_nil _) <|
      .text hsecond <| .text hthird <| .blank hseparator .nil
  obtain ⟨hhost, houtcome⟩ := padding_does_not_count (List.cons_ne_nil _ _) htight hlist
    (rfl : plain.lookup boundsVariable = _) (rfl : padded.lookup boundsVariable = _) rfl
    Host.initial
  exact ⟨plain, padded, rfl, rfl, hhost, houtcome, by decide +kernel⟩

end Environment

end CommandMetrics
