import CommandMetrics.Exposition
import CommandMetrics.Proofs.Numeral
/-!
# Exposition — the metrics text tells what was exported

A reader of the text knows its format and nothing else: it splits the text
at the ends of lines, leaves the comments out (`contentLines`), and goes
through a line character by character (`Scan.step`): to the brace, through
labels and their quotes, over the space, to the reading. What a label holds
is escaped, so the reader comes out of the quotes exactly where the writer
did, whatever stands between them (`Scan.run_escaped`). So each line reads
back as its sample (`Legible.readLine?_text`), and a text as all samples, line
by line (`readLine?_contentLines`). There is a text unless the value of some
label has a surrogate in it (`exists_text_eq_ok_iff`).
-/

namespace CommandMetrics.Exposition

/-! ## A reader of lines -/

/-- Where in a line a reader stands, and what it has read there. -/
inductive Place where
  | name (sofar : List Char)
  | label (sofar : List Char)
  /-- Behind the equals sign of a label. -/
  | opening (label : String)
  | value (label : String) (sofar : List Char)
  /-- Behind a backslash. -/
  | escape (label : String) (sofar : List Char)
  /-- Behind the closing quote of a label. -/
  | closing
  /-- Behind the closing brace. -/
  | gap
  | reading (sofar : List Char)

/-- What was read of a line. -/
structure Scan where
  name : String
  labels : List (String × Text)
  place : Place

namespace Scan

/-- Nothing was read yet. -/
def start : Scan := ⟨"", [], .name []⟩

/-- **Reads one more character**, unless it cannot stand where it does. -/
def step (s : Scan) (c : Char) : Option Scan :=
  match s.place with
  | .name sofar =>
    if c = '\x7b' then some { s with name := String.ofList sofar, place := .label [] }
    else if c = ' ' then some { s with name := String.ofList sofar, place := .reading [] }
    else some { s with place := .name (sofar ++ [c]) }
  | .label sofar =>
    if c = '=' then some { s with place := .opening (String.ofList sofar) }
    else some { s with place := .label (sofar ++ [c]) }
  | .opening label => if c = '"' then some { s with place := .value label [] } else none
  | .value label sofar =>
    if c = '\\' then some { s with place := .escape label sofar }
    else if c = '"' then
      some { s with
        labels := s.labels ++ [(label, .plain (String.ofList sofar))], place := .closing }
    else some { s with place := .value label (sofar ++ [c]) }
  | .escape label sofar =>
    if c = '\\' ∨ c = '"' then some { s with place := .value label (sofar ++ [c]) }
    else if c = 'n' then some { s with place := .value label (sofar ++ ['\n']) }
    else none
  | .closing =>
    if c = ',' then some { s with place := .label [] }
    else if c = '\x7d' then some { s with place := .gap }
    else none
  | .gap => if c = ' ' then some { s with place := .reading [] } else none
  | .reading sofar => some { s with place := .reading (sofar ++ [c]) }

/-- Reads characters one after the other. -/
def run (s : Scan) (text : List Char) : Option Scan := text.foldlM step s

end Scan

/-- Whether what is exported under a name is the moment when a cell was
made. -/
def isMoment (name : String) : Bool := createdSuffix.toList.isSuffixOf name.toList

/-- A reading from its text. That of a moment is not looked at. -/
def reading? (name : String) (text : List Char) : Option Reading :=
  if isMoment name then some .creation else (Numeral.plain? text).map .number

/-- **Reads a line as a sample.** -/
def readLine? (line : List Char) : Option Sample :=
  match Scan.start.run line with
  | some ⟨name, labels, .reading text⟩ => (reading? name text).map fun x => ⟨name, labels, x⟩
  | _ => none

/-- Whether a line is not empty and no comment. -/
def isContent (line : List Char) : Bool :=
  match line with
  | [] => false
  | c :: _ => c != '#'

/-- **The lines of a text** without comments. -/
def contentLines (text : String) : List (List Char) :=
  (text.toList.splitOn '\n').filter isContent

/-! ## Reading what was written -/

namespace Scan

variable {s : Scan} {name label : String} {before : List (String × Text)} {sofar : List Char}

@[simp] theorem run_nil : s.run [] = some s := rfl

theorem run_cons (c : Char) (rest : List Char) :
    s.run (c :: rest) = (s.step c).bind fun next => next.run rest := List.foldlM_cons

theorem run_append (text rest : List Char) :
    s.run (text ++ rest) = (s.run text).bind fun next => next.run rest := List.foldlM_append

/-- A name is read up to the brace or the space behind it. -/
theorem run_name {text : List Char} (htext : ∀ c ∈ text, c ≠ '\x7b' ∧ c ≠ ' ') :
    run ⟨name, before, .name sofar⟩ text = some ⟨name, before, .name (sofar ++ text)⟩ := by
  induction text generalizing sofar with
  | nil => simp
  | cons c text ih =>
    obtain ⟨⟨hbrace, hspace⟩, hrest⟩ := List.forall_mem_cons.1 htext
    simp [run_cons, step, hbrace, hspace, ih hrest]

/-- The name of a label is read up to the equals sign. -/
theorem run_label {text : List Char} (htext : '=' ∉ text) :
    run ⟨name, before, .label sofar⟩ text = some ⟨name, before, .label (sofar ++ text)⟩ := by
  induction text generalizing sofar with
  | nil => simp
  | cons c text ih =>
    rw [List.mem_cons, not_or] at htext
    simp [run_cons, step, Ne.symm htext.1, ih htext.2]

/-- **What is escaped is read as what it was**, and the reader is still
between the quotes. -/
theorem run_escaped (value : List Char) :
    run ⟨name, before, .value label sofar⟩ (escapeLabel value) =
      some ⟨name, before, .value label (sofar ++ value)⟩ := by
  induction value generalizing sofar with
  | nil => simp [escapeLabel]
  | cons c value ih =>
    unfold escapeLabel
    split
    · rename_i hbackslash
      simp [run_cons, step, hbackslash, ih]
    split
    · rename_i hnewline
      simp [run_cons, step, hnewline, ih]
    split
    · rename_i hquote
      simp [run_cons, step, hquote, ih]
    · rename_i hbackslash hnewline hquote
      simp [run_cons, step, hbackslash, hquote, ih]

/-- The reading is read to the end of the line. -/
theorem run_reading (text : List Char) :
    run ⟨name, before, .reading sofar⟩ text = some ⟨name, before, .reading (sofar ++ text)⟩ := by
  induction text generalizing sofar with
  | nil => simp
  | cons c text ih => simp [run_cons, step, ih]

/-- **A label is read with its value.** -/
theorem run_oneLabel {value : Text} (hname : '=' ∉ label.toList) (hvalue : value.isPlain = true) :
    run ⟨name, before, .label []⟩ (Exposition.label label value).chars =
      some ⟨name, before ++ [(label, value)], .closing⟩ := by
  cases value with
  | broken start half rest => cases hvalue
  | plain value =>
    have htext : (Exposition.label label value).chars =
        label.toList ++ '=' :: '"' :: (escapeLabel value.toList ++ ['"']) := by
      simp [Exposition.label]
    simp [htext, run_append, run_label hname, run_cons, step, run_escaped]

/-- So are labels with commas between them. By induction on those that are
still to come. -/
theorem run_labels {first : String × Text} {rest : List (String × Text)}
    (hlabels : ∀ l ∈ first :: rest, '=' ∉ l.1.toList ∧ l.2.isPlain = true) :
    run ⟨name, before, .label []⟩
        ([','].intercalate ((first :: rest).map fun l => (Exposition.label l.1 l.2).chars)) =
      some ⟨name, before ++ first :: rest, .closing⟩ := by
  induction rest generalizing first before with
  | nil =>
    obtain ⟨⟨hname, hvalue⟩, -⟩ := List.forall_mem_cons.1 hlabels
    simpa using run_oneLabel hname hvalue
  | cons second rest ih =>
    obtain ⟨⟨hname, hvalue⟩, hrest⟩ := List.forall_mem_cons.1 hlabels
    have hnext := @ih (before ++ [first]) second hrest
    simp only [List.map_cons] at hnext ⊢
    rw [List.intercalate_cons_cons, List.append_assoc, run_append, run_oneLabel hname hvalue,
      Option.bind_some, List.singleton_append, run_cons]
    simp only [step, if_pos, Option.bind_some, hnext, List.append_assoc, List.singleton_append]

end Scan

/-! ## Names and labels in order -/

/-- **A name that is written as it is**: it holds allowed characters only. -/
structure IsTame (name : String) : Prop where
  plain : isPlainName name.toList = true
  oneLine : '\n' ∉ name.toList

instance (name : String) : Decidable (IsTame name) :=
  decidable_of_iff (isPlainName name.toList = true ∧ '\n' ∉ name.toList)
    ⟨fun ⟨hplain, honeLine⟩ => ⟨hplain, honeLine⟩, fun h => ⟨h.plain, h.oneLine⟩⟩

namespace IsTame

variable {name : String}

theorem written (h : IsTame name) : writtenName name = name := by
  have hplain := h.plain
  unfold writtenName
  split
  · rename_i hnil
    rw [hnil] at hplain
    cases hplain
  · rename_i hcons
    rw [hcons] at hplain
    rw [if_pos hplain]

/-- It begins with a character that a name may begin with, and goes on with
such as it may go on with. -/
theorem exists_cons (h : IsTame name) :
    ∃ first rest, name.toList = first :: rest ∧ isNameStart first = true ∧
      ∀ c ∈ rest, isNamePart c = true := by
  have hplain := h.plain
  have hend : name.toList.getLast? ≠ some '\n' := fun hlast =>
    h.oneLine (List.mem_of_getLast? hlast)
  unfold isPlainName at hplain
  rw [if_neg hend] at hplain
  cases htext : name.toList with
  | nil =>
    rw [htext] at hplain
    cases hplain
  | cons first rest =>
    rw [htext] at hplain
    obtain ⟨hfirst, hrest⟩ := Bool.and_eq_true_iff.1 hplain
    exact ⟨first, rest, rfl, hfirst, List.all_eq_true.1 hrest⟩

/-- What may stand in a name may stand behind it. -/
theorem append (h : IsTame name) {suffix : String}
    (hsuffix : ∀ c ∈ suffix.toList, isNamePart c = true) : IsTame (name ++ suffix) := by
  obtain ⟨first, rest, htext, hfirst, hrest⟩ := h.exists_cons
  have hend : '\n' ∉ (name ++ suffix).toList := by
    rw [String.toList_append, List.mem_append, not_or]
    exact ⟨h.oneLine, fun hmem => Bool.false_ne_true (hsuffix _ hmem)⟩
  refine ⟨?_, hend⟩
  unfold isPlainName
  rw [if_neg fun hlast => hend (List.mem_of_getLast? hlast), String.toList_append, htext]
  refine Bool.and_eq_true_iff.2 ⟨hfirst, List.all_eq_true.2 fun c hc => ?_⟩
  exact (List.mem_append.1 hc).elim (hrest c) (hsuffix c)

/-- So neither a brace nor a space is in it. -/
theorem notMem (h : IsTame name) : ∀ c ∈ name.toList, c ≠ '\x7b' ∧ c ≠ ' ' := by
  obtain ⟨first, rest, htext, hfirst, hrest⟩ := h.exists_cons
  have hpart : ∀ c ∈ name.toList, isNamePart c = true := by
    rw [htext]
    exact List.forall_mem_cons.2 ⟨by rw [isNamePart, hfirst, Bool.true_or], hrest⟩
  intro c hc
  have hallowed := hpart c hc
  constructor <;>
  · rintro rfl
    revert hallowed
    decide

end IsTame

/-- A name with the suffix of moments is that of a moment, -/
theorem isMoment_append (name : String) : isMoment (name ++ createdSuffix) = true := by
  rw [isMoment, String.toList_append, List.isSuffixOf_iff_suffix]
  exact List.suffix_append _ _

/-- and one that ends otherwise is not. -/
theorem isMoment_eq_false {name : String} (h : name.toList.getLast? ≠ some 'd') :
    isMoment name = false := by
  rw [Bool.eq_false_iff]
  intro hmoment
  obtain ⟨front, heq⟩ := List.isSuffixOf_iff_suffix.1 hmoment
  have hlast : createdSuffix.toList.getLast? = some 'd' := by decide
  rw [← heq, List.getLast?_append, hlast] at h
  exact h rfl

/-- **A sample that a line can tell**: its name is written as it is, its
labels come in the order of their names, and moments go by the names that
are theirs. -/
structure Legible (s : Sample) : Prop where
  name : IsTame s.name
  labels : ∀ l ∈ s.labels, '=' ∉ l.1.toList ∧ '\n' ∉ l.1.toList
  sorted : s.labels.Pairwise fun a b => a.1 ≤ b.1
  moment : isMoment s.name = true ↔ s.reading = .creation

namespace Legible

variable {s : Sample}

/-- A reading is read back, by the name of its sample. -/
theorem reading?_reading (h : Legible s) :
    reading? s.name (Exposition.reading s.reading).toList = some s.reading := by
  unfold reading?
  cases hreading : s.reading with
  | creation => rw [if_pos (h.moment.2 hreading)]
  | number x =>
    rw [if_neg, Exposition.reading, Numeral.plain?_metrics, Option.map_some]
    intro hmoment
    rw [h.moment.1 hmoment] at hreading
    cases hreading

/-- The text of a sample, part by part. -/
theorem chars_text (h : Legible s) :
    (Line.sample s).text.chars =
      s.name.toList ++ ((Exposition.labels s.labels).chars ++
        ' ' :: (Exposition.reading s.reading).toList) := by
  simp [Line.text, subject, h.name.written, List.append_assoc]

/-- Labels are written with commas between them. -/
theorem chars_listed (first : String × Text) (rest : List (String × Text)) :
    (listed (first :: rest)).chars =
      [','].intercalate ((first :: rest).map fun l => (label l.1 l.2).chars) := by
  induction rest generalizing first with
  | nil => simp [listed]
  | cons second rest ih =>
    simp only [List.map_cons] at ih ⊢
    rw [listed_cons_cons, Text.chars_append, Text.chars_append, ih, List.intercalate_cons_cons]
    rfl

/-- Labels that are in order are written as they come. -/
theorem chars_labels {first : String × Text} {rest : List (String × Text)}
    (h : (first :: rest).Pairwise fun a b => a.1 ≤ b.1) :
    (Exposition.labels (first :: rest)).chars =
      '\x7b' :: ([','].intercalate ((first :: rest).map fun l => (label l.1 l.2).chars)
        ++ ['\x7d']) := by
  have hsorted : (first :: rest).mergeSort (fun a b => decide (a.1 ≤ b.1)) = first :: rest :=
    List.mergeSort_of_pairwise (h.imp fun hle => decide_eq_true hle)
  unfold Exposition.labels
  simp only [List.isEmpty_cons, Bool.false_eq_true, if_false, hsorted, Text.chars_append,
    chars_listed]
  rfl

/-- **A line reads back as its sample**, if it is of characters only. -/
theorem readLine?_text (h : Legible s) (hplain : ∀ l ∈ s.labels, l.2.isPlain = true) :
    readLine? (Line.sample s).text.chars = some s := by
  have hname : Scan.start.run s.name.toList = some ⟨"", [], .name s.name.toList⟩ :=
    Scan.run_name h.name.notMem
  have hscan : Scan.start.run (Line.sample s).text.chars =
      some ⟨s.name, s.labels, .reading (Exposition.reading s.reading).toList⟩ := by
    rw [h.chars_text, Scan.run_append, hname, Option.bind_some]
    cases hlabels : s.labels with
    | nil =>
      simp [Exposition.labels, Scan.run_cons, Scan.step, Scan.run_reading]
    | cons first rest =>
      have hsorted := h.sorted
      have hall := fun l hl => And.intro (h.labels l hl).1 (hplain l hl)
      rw [hlabels] at hsorted hall
      have hread : Scan.run ⟨s.name, [], .label []⟩
          ([','].intercalate ((first :: rest).map fun l => (label l.1 l.2).chars)) =
            some ⟨s.name, first :: rest, .closing⟩ := Scan.run_labels hall
      rw [chars_labels hsorted]
      generalize [','].intercalate _ = text at hread ⊢
      simp [Scan.run_cons, Scan.run_append, Scan.step, hread, Scan.run_reading]
  unfold readLine?
  rw [hscan]
  simp [h.reading?_reading]

end Legible

/-! ## Lines of a text -/

/-- What is escaped holds no end of a line, -/
theorem newline_notMem_escapeLabel (value : List Char) : '\n' ∉ escapeLabel value := by
  induction value with
  | nil => exact List.not_mem_nil
  | cons c value ih =>
    unfold escapeLabel
    split
    · simp [ih]
    split
    · simp [ih]
    split
    · simp [ih]
    · rename_i hnewline hquote
      simp [ih, Ne.symm hnewline]

/-- in a help text as in a label. -/
theorem newline_notMem_escapeHelp (words : List Char) : '\n' ∉ escapeHelp words := by
  induction words with
  | nil => exact List.not_mem_nil
  | cons c words ih =>
    unfold escapeHelp
    split
    · simp [ih]
    split
    · simp [ih]
    · rename_i hnewline
      simp [ih, Ne.symm hnewline]

/-- Whether a line is that of a sample. -/
def Line.isSample : Line → Bool
  | sample _ => true
  | _ => false

/-- **A line stands for itself**: it is a single one, and a comment unless it
is that of a sample. -/
structure Line.Stands (line : Line) : Prop where
  oneLine : '\n' ∉ line.text.chars
  content : isContent line.text.chars = line.isSample

theorem stands_help {name : String} (hname : IsTame name) (words : String) :
    (Line.help name words).Stands where
  oneLine := by
    have hwords := newline_notMem_escapeHelp words.toList
    simp [Line.text, hname.written, hname.oneLine, hwords]
  content := by simp [Line.text, isContent, Line.isSample]

theorem stands_shape {name : String} (hname : IsTame name) (kind : FamilyKind) :
    (Line.shape name kind.name).Stands where
  oneLine := by
    have hkind : '\n' ∉ kind.name.toList := by cases kind <;> decide
    simp [Line.text, hname.written, hname.oneLine, hkind]
  content := by simp [Line.text, isContent, Line.isSample]

theorem newline_notMem_label {l : String × Text} (hname : '\n' ∉ l.1.toList) :
    '\n' ∉ (label l.1 l.2).chars := by
  have hvalue := Text.notMem_chars_mapPlain newline_notMem_escapeLabel l.2
  simp [label, hname, hvalue]

/-- Labels with commas between them hold no end of a line. -/
theorem newline_notMem_labels {first : String × Text} {rest : List (String × Text)}
    (hnames : ∀ l ∈ first :: rest, '\n' ∉ l.1.toList) :
    '\n' ∉ [','].intercalate ((first :: rest).map fun l => (label l.1 l.2).chars) := by
  induction rest generalizing first with
  | nil =>
    obtain ⟨hfirst, -⟩ := List.forall_mem_cons.1 hnames
    simpa using newline_notMem_label hfirst
  | cons second rest ih =>
    obtain ⟨hfirst, hrest⟩ := List.forall_mem_cons.1 hnames
    have hnext := ih hrest
    simp only [List.map_cons] at hnext ⊢
    rw [List.intercalate_cons_cons]
    simp [newline_notMem_label hfirst, hnext]

theorem newline_notMem_reading (x : Reading) : '\n' ∉ (reading x).toList := by
  cases x with
  | number x => exact Numeral.newline_notMem_metrics x
  | creation => decide

/-- **A sample is a line of its own.** -/
theorem Legible.stands {s : Sample} (h : Legible s) : (Line.sample s).Stands where
  oneLine := by
    have hlabels : '\n' ∉ (Exposition.labels s.labels).chars := by
      cases hall : s.labels with
      | nil => simp [Exposition.labels]
      | cons first rest =>
        have hsorted := h.sorted
        have hnames := fun l hl => (h.labels l hl).2
        rw [hall] at hsorted hnames
        have hjoined := newline_notMem_labels hnames
        rw [Legible.chars_labels hsorted]
        generalize [','].intercalate _ = text at hjoined ⊢
        simp [hjoined]
    rw [h.chars_text]
    simp [h.name.oneLine, hlabels, newline_notMem_reading]
  content := by
    obtain ⟨first, rest, htext, hfirst, -⟩ := h.name.exists_cons
    have hsharp : first ≠ '#' := by
      rintro rfl
      revert hfirst
      decide
    rw [h.chars_text, htext]
    simp [isContent, hsharp, Line.isSample]

/-! ## Surrogates -/

/-- What a label is written with has no surrogate besides those of its value. -/
theorem isPlain_listed (all : List (String × Text)) :
    (listed all).isPlain = all.all fun l => l.2.isPlain := by
  match all with
  | [] => rfl
  | [(name, value)] => simp [listed, label]
  | first :: second :: rest =>
    rw [listed_cons_cons, Text.isPlain_append, isPlain_listed (second :: rest)]
    simp [label]

/-- So a line is of characters only if the values of its labels are. -/
theorem Line.isPlain_text_sample (s : Sample) :
    (Line.sample s).text.isPlain = s.labels.all fun l => l.2.isPlain := by
  have hlabels : (labels s.labels).isPlain = s.labels.all fun l => l.2.isPlain := by
    unfold labels
    split
    · rename_i hnone
      rw [List.isEmpty_iff.1 hnone]
      rfl
    · simp only [Text.isPlain_append, isPlain_listed, Text.isPlain_plain, Bool.true_and,
        Bool.and_true]
      exact (List.mergeSort_perm _ _).all_eq
  simp [Line.text, subject, hlabels]

/-! ## Whole texts -/

/-- **The samples of a family as they are written**: moments come last. -/
def written (f : Family) : List Sample :=
  f.samples.filter (fun s => s.name != f.name ++ createdSuffix) ++
    f.samples.filter fun s => s.name == f.name ++ createdSuffix

/-- **Nothing is left out and nothing added** where moments are put last. -/
theorem written_perm (f : Family) : (written f).Perm f.samples := by
  have hperm := List.filter_append_perm (fun s => s.name != f.name ++ createdSuffix) f.samples
  simpa [written, bne] using hperm

theorem mem_written_iff {f : Family} {s : Sample} : s ∈ written f ↔ s ∈ f.samples :=
  (written_perm f).mem_iff

/-- What is written of some of the samples is that part of what is written. -/
theorem filter_written {f : Family} (p : Sample → Bool) :
    (written f).filter p = written { f with samples := f.samples.filter p } := by
  simp only [written, List.filter_append, List.filter_filter, Bool.and_comm]

/-- **A family of which every sample can be told.** -/
structure LegibleFamily (f : Family) : Prop where
  head : IsTame (headName f)
  created : IsTame (f.name ++ createdSuffix)
  samples : ∀ s ∈ f.samples, Legible s

theorem LegibleFamily.legible {f : Family} (h : LegibleFamily f) : ∀ s ∈ written f, Legible s :=
  fun s hs => h.samples s (mem_written_iff.1 hs)

/-- Of the lines of a family those of the samples are written in this order. -/
theorem filter_familyLines (f : Family) :
    (familyLines f).filter Line.isSample = (written f).map Line.sample := by
  have hsamples : ∀ all : List Sample,
      (all.map Line.sample).filter Line.isSample = all.map Line.sample := fun all =>
    List.filter_eq_self.2 fun line hline => by
      obtain ⟨s, -, rfl⟩ := List.mem_map.1 hline
      rfl
  unfold familyLines written
  simp only [List.partition_eq_filter_filter]
  split
  · rename_i hnone
    rw [List.isEmpty_iff.1 hnone]
    simp [hsamples, Line.isSample, Function.comp_def, bne]
  · simp [hsamples, Line.isSample, Function.comp_def, bne]

/-- So there is a line for each of its samples. -/
theorem mem_familyLines_iff {f : Family} {s : Sample} :
    Line.sample s ∈ familyLines f ↔ s ∈ f.samples := by
  have hmem : Line.sample s ∈ (familyLines f).filter Line.isSample ↔
      Line.sample s ∈ (written f).map Line.sample := by rw [filter_familyLines]
  simpa [Line.isSample, mem_written_iff] using hmem

/-- **Each line of a family stands for itself.** -/
theorem stands_familyLines {f : Family} (h : LegibleFamily f) :
    ∀ line ∈ familyLines f, line.Stands := by
  have hsamples : ∀ p : Sample → Bool, ∀ line ∈ (f.samples.filter p).map Line.sample,
      line.Stands := fun p line hline => by
    obtain ⟨s, hs, rfl⟩ := List.mem_map.1 hline
    exact (h.samples s (List.mem_filter.1 hs).1).stands
  have hhead : ∀ line ∈ [Line.help (headName f) f.help, .shape (headName f) f.kind.name],
      line.Stands := by
    simp only [List.forall_mem_cons, List.not_mem_nil, false_implies, implies_true, and_true]
    exact ⟨stands_help h.head _, stands_shape h.head _⟩
  have hcreated : ∀ line ∈ [Line.help (f.name ++ createdSuffix) f.help,
      .shape (f.name ++ createdSuffix) "gauge"], line.Stands := by
    simp only [List.forall_mem_cons, List.not_mem_nil, false_implies, implies_true, and_true]
    exact ⟨stands_help h.created _, stands_shape h.created .gauge⟩
  unfold familyLines
  simp only [List.partition_eq_filter_filter]
  refine List.forall_mem_append.2 ⟨List.forall_mem_append.2 ⟨hhead, hsamples _⟩, ?_⟩
  split
  · exact fun line hline => absurd hline List.not_mem_nil
  · exact List.forall_mem_append.2 ⟨hcreated, hsamples _⟩

/-- **A page splits into its lines**, behind the last of which nothing
comes. -/
theorem splitOn_page {families : List Family}
    (h : ∀ line ∈ lines families, '\n' ∉ line.text.chars) :
    (page families).chars.splitOn '\n' =
      (lines families).map (fun line => line.text.chars) ++ [[]] := by
  have hjoin : ∀ all : List Line,
      (Text.join (all.map fun line => line.text ++ Text.plain "\n")).chars =
        ['\n'].intercalate (all.map (fun line => line.text.chars) ++ [[]]) := by
    intro all
    induction all with
    | nil => rfl
    | cons line all ih =>
      rw [List.map_cons, Text.join, Text.chars_append, ih, Text.chars_append, List.map_cons,
        List.cons_append]
      cases all with
      | nil => simp [List.intercalate_cons_cons]
      | cons next all => simp [List.intercalate_cons_cons]
  rw [page, hjoin, List.splitOn_intercalate]
  · intro l hl
    rcases List.mem_append.1 hl with hl | hl
    · obtain ⟨line, hline, rfl⟩ := List.mem_map.1 hl
      exact h line hline
    · rw [List.mem_singleton.1 hl]
      exact List.not_mem_nil
  · simp

/-- **There is a text exactly if all labels have values of characters only.** -/
theorem exists_text_eq_ok_iff {families : List Family} :
    (∃ s, text families = .ok s) ↔
      ∀ f ∈ families, ∀ sample ∈ f.samples, ∀ l ∈ sample.labels, l.2.isPlain = true := by
  have hencode : (∃ s, text families = .ok s) ↔ (page families).isPlain = true := by
    rw [← Text.isSome_encode?]
    unfold text
    cases (page families).encode? <;> simp
  have hlines : (page families).isPlain = (lines families).all fun line => line.text.isPlain := by
    simp [page, Text.isPlain_join, List.all_map, Function.comp_def]
  rw [hencode, hlines, List.all_eq_true]
  constructor
  · intro h f hf sample hsample
    have hline : Line.sample sample ∈ lines families :=
      List.mem_flatMap.2 ⟨f, hf, mem_familyLines_iff.2 hsample⟩
    have hplain := h _ hline
    rwa [Line.isPlain_text_sample, List.all_eq_true] at hplain
  · intro h line hline
    obtain ⟨f, hf, hline⟩ := List.mem_flatMap.1 hline
    cases line with
    | help name words => rfl
    | shape name kind => rfl
    | sample sample =>
      rw [Line.isPlain_text_sample, List.all_eq_true]
      exact h f hf sample (mem_familyLines_iff.1 hline)

/-- A text holds the characters of its page. -/
theorem toList_of_text_eq_ok {families : List Family} {characters : String}
    (h : text families = .ok characters) : characters.toList = (page families).chars := by
  unfold text at h
  split at h
  · rename_i hencode
    cases h
    rw [Text.encode?_eq_some_iff.1 hencode]
    rfl
  · cases h

/-- **The content of a text is one line for each sample**, in the order in
which they are written. -/
theorem contentLines_text {families : List Family} {characters : String}
    (htext : text families = .ok characters) (h : ∀ f ∈ families, LegibleFamily f) :
    contentLines characters =
      (families.flatMap written).map fun s => (Line.sample s).text.chars := by
  have hstands : ∀ line ∈ lines families, line.Stands := fun line hline => by
    obtain ⟨f, hf, hline⟩ := List.mem_flatMap.1 hline
    exact stands_familyLines (h f hf) line hline
  have hsamples : (lines families).filter Line.isSample =
      (families.flatMap written).map Line.sample := by
    simp only [lines, List.filter_flatMap, List.map_flatMap, filter_familyLines]
  have hcontent : (lines families).filter (isContent ∘ fun line => line.text.chars) =
      (lines families).filter Line.isSample :=
    List.filter_congr fun line hline => (hstands line hline).content
  unfold contentLines
  rw [toList_of_text_eq_ok htext, splitOn_page fun line hline => (hstands line hline).oneLine,
    List.filter_append, List.filter_map, hcontent, hsamples, List.map_map]
  exact List.append_nil _

/-- **The text reads back as what was exported**, line by line. -/
theorem readLine?_contentLines {families : List Family} {characters : String}
    (htext : text families = .ok characters) (h : ∀ f ∈ families, LegibleFamily f) :
    (contentLines characters).map readLine? = (families.flatMap written).map some := by
  have hplain := exists_text_eq_ok_iff.1 ⟨characters, htext⟩
  rw [contentLines_text htext h, List.map_map]
  refine List.map_congr_left fun s hs => ?_
  obtain ⟨f, hf, hs⟩ := List.mem_flatMap.1 hs
  exact ((h f hf).legible s hs).readLine?_text (hplain f hf s (mem_written_iff.1 hs))

end CommandMetrics.Exposition
