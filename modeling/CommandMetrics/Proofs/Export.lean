import CommandMetrics.Host.Export
import CommandMetrics.Proofs.Exposition
import CommandMetrics.Proofs.Order
import CommandMetrics.Proofs.Recording.Observation
/-!
# Export — the metrics text of a set, whatever its commands are called

Every sample of a series has a name that is written as it is and at most two
labels, of which only the values are free (`legibleFamily`). A series has
one cell for a command, so the samples about a command are those of its own
cell (`filter_samples`). So a text of some series of a set tells their samples,
and of each command those of its own cells (`toldBy_of_text`); there is one if
no command has a surrogate in it (`exists_text_iff`). With the order in which
sources stand this is what a registry exports that holds nothing but series of
one set (`text_faithful`). They are all eleven unless one was taken out behind
the back of the set, which then is missing from the text
(`text_lacks_dropped`); and a name with a surrogate in it keeps all of the text
from being told (`no_text_of_surrogate`).
-/

namespace CommandMetrics

open Exposition

/-! ## What samples look like -/

namespace Series

/-- The suffixes of the names under which a series exports numbers. -/
def suffixes : List String := ["", "_total", "_bucket", "_count", "_sum"]

theorem fullName_eq (s : Series) : s.fullName = "hystrix_go_" ++ s.name := by
  have hspace : space ≠ "" := by decide
  have hprefix : space ++ "_" = "hystrix_go_" := by decide
  rw [fullName, Definition.fullName, if_neg hspace, hprefix]
  rfl

/-- **No two series have names that go on to be the same.** -/
theorem eq_of_fullName_append {s s' : Series} {suffix suffix' : String}
    (h : s.fullName ++ suffix = s'.fullName ++ suffix') : s = s' := by
  have hnames : ∀ s ∈ all, ∀ s' ∈ all, s.name.toList <+: s'.name.toList → s = s' := by
    decide +kernel
  have hparts := congrArg String.toList h
  simp only [fullName_eq, String.toList_append, List.append_assoc,
    List.append_cancel_left_eq] at hparts
  -- of two names that begin the same text, one begins the other
  have hleft : s.name.toList <+: s.name.toList ++ suffix.toList := List.prefix_append _ _
  have hright : s'.name.toList <+: s.name.toList ++ suffix.toList :=
    hparts ▸ List.prefix_append _ _
  rcases List.prefix_or_prefix_of_prefix hleft hright with hbegins | hbegins
  · exact hnames s (mem_all s) s' (mem_all s') hbegins
  · exact (hnames s' (mem_all s') s (mem_all s) hbegins).symm

/-- The name of a series is written as it is, -/
theorem isTame_fullName (s : Series) : IsTame s.fullName := by
  have hprefix : IsTame "hystrix_go_" := by decide +kernel
  have hnames : ∀ s ∈ all, s.name.toList.all isNamePart = true := by decide +kernel
  rw [fullName_eq]
  exact hprefix.append (List.all_eq_true.1 (hnames s (mem_all s)))

/-- and so are all names under which it exports. -/
theorem isTame_fullName_append (s : Series) :
    ∀ suffix ∈ createdSuffix :: suffixes, IsTame (s.fullName ++ suffix) := by
  have hparts : ∀ suffix ∈ createdSuffix :: suffixes, suffix.toList.all isNamePart = true := by
    decide +kernel
  exact fun suffix hsuffix =>
    s.isTame_fullName.append (List.all_eq_true.1 (hparts suffix hsuffix))

/-- **No number goes by the name of a moment.** -/
theorem isMoment_fullName (s : Series) :
    ∀ suffix ∈ suffixes, isMoment (s.fullName ++ suffix) = false := by
  have hsuffixes : ∀ suffix ∈ suffixes, suffix.toList.getLast? ≠ some 'd' := by decide +kernel
  have hnames : ∀ s ∈ all, s.name.toList.getLast? = some 's' := by decide +kernel
  intro suffix hsuffix
  refine isMoment_eq_false ?_
  rw [fullName_eq, String.toList_append, String.toList_append, List.getLast?_append,
    List.getLast?_append, hnames s (mem_all s), ne_eq, Option.or_eq_some_iff]
  rintro (hlast | ⟨-, hlast⟩)
  · exact hsuffixes suffix hsuffix hlast
  · cases hlast

end Series

/-- **A sample of a cell**: a number under a name of the series, with the
command for a label and perhaps a bound for another, or the moment when the
cell was made. -/
inductive Sample.IsOfCell (s : Series) (command : Text) : Sample → Prop where
  | number (suffix : String) (more : List (String × Text)) (x : Number)
      (hsuffix : suffix ∈ Series.suffixes)
      (hmore : more = [] ∨ ∃ bound : String, more = [(Sample.boundLabel, .plain bound)]) :
      Sample.IsOfCell s command
        ⟨s.fullName ++ suffix, (Definition.commandLabel, command) :: more, .number x⟩
  | moment : Sample.IsOfCell s command
      ⟨s.fullName ++ createdSuffix, [(Definition.commandLabel, command)], .creation⟩

namespace Sample

/-- Whether a sample is about a command. -/
def isAbout (command : Text) (sample : Sample) : Bool :=
  sample.labels.lookup Definition.commandLabel == some command

variable {s : Series} {command : Text} {sample : Sample}

theorem isOfCell_ofCounter (s : Series) (command : Text) (x : Number) :
    ∀ sample ∈ ofCounter s.fullName [(Definition.commandLabel, command)] x,
      IsOfCell s command sample := by
  refine List.forall_mem_cons.2 ⟨.number "_total" [] x (by decide) (.inl rfl), ?_⟩
  exact List.forall_mem_singleton.2 .moment

theorem isOfCell_ofGauge (s : Series) (command : Text) (x : Number) :
    ∀ sample ∈ ofGauge s.fullName [(Definition.commandLabel, command)] x,
      IsOfCell s command sample := by
  have hsample : IsOfCell s command
      ⟨s.fullName ++ "", [(Definition.commandLabel, command)], .number x⟩ :=
    .number "" [] x (by decide) (.inl rfl)
  rw [String.append_empty] at hsample
  exact List.forall_mem_singleton.2 hsample

theorem isOfCell_ofHistogram (s : Series) (command : Text) (buckets : List Number)
    (runs : Histogram) :
    ∀ sample ∈ ofHistogram s.fullName [(Definition.commandLabel, command)] buckets runs,
      IsOfCell s command sample := by
  refine List.forall_mem_append.2 ⟨fun sample hsample => ?_, ?_⟩
  · obtain ⟨⟨bound, n⟩, -, rfl⟩ := List.mem_map.1 hsample
    exact .number "_bucket" _ n (by decide) (.inr ⟨_, rfl⟩)
  · refine List.forall_mem_cons.2 ⟨.number "_count" [] _ (by decide) (.inl rfl), ?_⟩
    refine List.forall_mem_cons.2 ⟨.number "_sum" [] _ (by decide) (.inl rfl), ?_⟩
    exact List.forall_mem_singleton.2 .moment

/-- Its command is told by its labels. -/
theorem IsOfCell.lookup_labels (h : IsOfCell s command sample) :
    sample.labels.lookup Definition.commandLabel = some command := by
  cases h <;> exact List.lookup_cons_self

/-- So it is about that command and no other. -/
theorem IsOfCell.isAbout_iff (h : IsOfCell s command sample) {other : Text} :
    sample.isAbout other = true ↔ other = command := by
  rw [isAbout, h.lookup_labels, beq_iff_eq, Option.some.injEq, eq_comm]

/-- Its labels are of characters if that command is. -/
theorem IsOfCell.isPlain_labels_iff (h : IsOfCell s command sample) :
    (∀ l ∈ sample.labels, l.2.isPlain = true) ↔ command.isPlain = true := by
  cases h with
  | number suffix more x hsuffix hmore =>
    rcases hmore with rfl | ⟨bound, rfl⟩ <;> simp
  | moment => simp

/-- Its series is told by its name. -/
theorem IsOfCell.series_eq {s' : Series} {command' : Text} (h : IsOfCell s command sample)
    (h' : IsOfCell s' command' sample) : s = s' := by
  have hname : ∀ {s : Series} {command : Text}, IsOfCell s command sample →
      ∃ suffix, sample.name = s.fullName ++ suffix := fun hcell => by
    cases hcell <;> exact ⟨_, rfl⟩
  obtain ⟨suffix, hleft⟩ := hname h
  obtain ⟨suffix', hright⟩ := hname h'
  exact Series.eq_of_fullName_append (hleft.symm.trans hright)

/-- **A line can tell it.** -/
theorem IsOfCell.legible (h : IsOfCell s command sample) : Legible sample := by
  have hcommand : '=' ∉ Definition.commandLabel.toList ∧ '\n' ∉ Definition.commandLabel.toList := by
    decide
  have hbound : '=' ∉ boundLabel.toList ∧ '\n' ∉ boundLabel.toList := by decide
  have hle : Definition.commandLabel ≤ boundLabel := by decide
  cases h with
  | number suffix more x hsuffix hmore =>
    have hname := s.isMoment_fullName suffix hsuffix
    refine ⟨s.isTame_fullName_append suffix (List.mem_cons_of_mem _ hsuffix), ?_, ?_,
      by simp [hname]⟩ <;> rcases hmore with rfl | ⟨bound, rfl⟩
    · exact List.forall_mem_singleton.2 hcommand
    · exact List.forall_mem_cons.2 ⟨hcommand, List.forall_mem_singleton.2 hbound⟩
    · exact List.pairwise_singleton _ _
    · simp [hle]
  | moment =>
    exact ⟨s.isTame_fullName_append createdSuffix List.mem_cons_self,
      List.forall_mem_singleton.2 hcommand, List.pairwise_singleton _ _,
      by simp [isMoment_append]⟩

end Sample

/-! ## The samples of a command -/

/-- What cells are exported as, of which each is about its own command, is
about a command what its cell is exported as. By induction on the cells: no
other cell is of that command. -/
theorem Children.filter_flatMap_cells {α : Type} {c : Children α} (hnodup : c.commands.Nodup)
    {s : Series} {make : Text → α → List Sample}
    (hmake : ∀ k a, ∀ sample ∈ make k a, Sample.IsOfCell s k sample) (command : Text) :
    (c.cells.flatMap fun cell => make cell.1 cell.2).filter (Sample.isAbout command) =
      (c.get? command).elim [] (make command) := by
  obtain ⟨cells⟩ := c
  have hown : ∀ a, (make command a).filter (Sample.isAbout command) = make command a := fun a =>
    List.filter_eq_self.2 fun sample hsample => (hmake command a sample hsample).isAbout_iff.2 rfl
  have hother : ∀ k a, k ≠ command → (make k a).filter (Sample.isAbout command) = [] :=
    fun k a hne => List.filter_eq_nil_iff.2 fun sample hsample habout =>
      hne ((hmake k a sample hsample).isAbout_iff.1 habout).symm
  induction cells with
  | nil => rfl
  | cons cell cells ih =>
    obtain ⟨k, a⟩ := cell
    obtain ⟨hnot, hrest⟩ := List.nodup_cons.1 hnodup
    rw [List.flatMap_cons, List.filter_append, ih hrest, get?_cons]
    by_cases heq : command = k
    · subst heq
      rw [if_pos rfl, get?_eq_none_of_notMem hnot, hown]
      exact List.append_nil _
    · rw [if_neg heq, hother k a (Ne.symm heq)]
      rfl

namespace MetricSet

variable {m : MetricSet} {s : Series} {command : Text}

/-- **The samples of a single cell**, if there is one. -/
def samplesOf (m : MetricSet) (s : Series) (command : Text) : List Sample :=
  let labels := [(Definition.commandLabel, command)]
  match s with
  | .events e => ((m.counters.get e).get? command).elim [] (Sample.ofCounter s.fullName labels)
  | .totalDuration => (m.totalDuration.get? command).elim [] (Sample.ofGauge s.fullName labels)
  | .runDuration =>
    (m.runDuration.get? command).elim [] (Sample.ofHistogram s.fullName labels m.buckets)

/-- **The samples of a series about a command** are those of its cell. -/
theorem filter_samples (hnodup : (m.commands s).Nodup) (command : Text) :
    (m.samples s).filter (Sample.isAbout command) = m.samplesOf s command := by
  cases s with
  | events e => exact Children.filter_flatMap_cells hnodup (Sample.isOfCell_ofCounter _) command
  | totalDuration =>
    exact Children.filter_flatMap_cells hnodup (Sample.isOfCell_ofGauge _) command
  | runDuration =>
    exact Children.filter_flatMap_cells hnodup
      (fun k => Sample.isOfCell_ofHistogram _ k m.buckets) command

/-- Every sample of a series is of a cell. -/
theorem exists_isOfCell : ∀ sample ∈ m.samples s, ∃ command ∈ m.commands s,
    Sample.IsOfCell s command sample := by
  intro sample hsample
  have hcells : ∀ {α : Type} {c : Children α} {make : Text → α → List Sample},
      (∀ k a, ∀ sample ∈ make k a, Sample.IsOfCell s k sample) →
      sample ∈ (c.cells.flatMap fun cell => make cell.1 cell.2) →
      ∃ command ∈ c.commands, Sample.IsOfCell s command sample := fun hmake hmem => by
    obtain ⟨cell, hcell, hmem⟩ := List.mem_flatMap.1 hmem
    exact ⟨cell.1, List.mem_map_of_mem hcell, hmake cell.1 cell.2 sample hmem⟩
  cases s with
  | events e => exact hcells (Sample.isOfCell_ofCounter _) hsample
  | totalDuration => exact hcells (Sample.isOfCell_ofGauge _) hsample
  | runDuration => exact hcells (fun k => Sample.isOfCell_ofHistogram _ k m.buckets) hsample

/-- **The families of a set can be told**, whatever its commands are. -/
theorem legibleFamily (m : MetricSet) (s : Series) : LegibleFamily (m.family s) where
  head := by
    have htotal := s.isTame_fullName_append "_total" (by decide)
    cases s with
    | events e => exact htotal
    | totalDuration => exact Series.isTame_fullName .totalDuration
    | runDuration => exact Series.isTame_fullName .runDuration
  created := s.isTame_fullName_append createdSuffix List.mem_cons_self
  samples sample hsample := by
    obtain ⟨command, -, hcell⟩ := exists_isOfCell sample hsample
    exact hcell.legible

/-- The samples of a cell are among those of its series. -/
theorem mem_samples_of_mem_samplesOf (hnodup : (m.commands s).Nodup) {sample : Sample}
    (hsample : sample ∈ m.samplesOf s command) : sample ∈ m.samples s := by
  rw [← filter_samples hnodup command] at hsample
  exact (List.mem_filter.1 hsample).1

/-- They are of that cell. -/
theorem isOfCell_of_mem_samplesOf {sample : Sample} (hsample : sample ∈ m.samplesOf s command) :
    Sample.IsOfCell s command sample := by
  have hcell : ∀ {α : Type} {cell : Option α} {make : α → List Sample},
      (∀ a, ∀ sample ∈ make a, Sample.IsOfCell s command sample) →
      sample ∈ cell.elim [] make → Sample.IsOfCell s command sample := by
    intro α cell make hmake hmem
    cases cell with
    | none => cases hmem
    | some a => exact hmake a sample hmem
  cases s with
  | events e => exact hcell (Sample.isOfCell_ofCounter _ command) hsample
  | totalDuration => exact hcell (Sample.isOfCell_ofGauge _ command) hsample
  | runDuration => exact hcell (Sample.isOfCell_ofHistogram _ command m.buckets) hsample

/-- Where a command has a cell there is a sample of it. -/
theorem exists_mem_samplesOf (h : command ∈ m.commands s) :
    ∃ sample, sample ∈ m.samplesOf s command := by
  cases s with
  | events e =>
    obtain ⟨x, hx⟩ := Children.mem_commands_iff.1 h
    exact ⟨_, by rw [samplesOf, hx]; exact List.mem_cons_self⟩
  | totalDuration =>
    obtain ⟨x, hx⟩ := Children.mem_commands_iff.1 h
    exact ⟨_, by rw [samplesOf, hx]; exact List.mem_cons_self⟩
  | runDuration =>
    obtain ⟨runs, hruns⟩ := Children.mem_commands_iff.1 h
    exact ⟨_, by rw [samplesOf, hruns]; exact List.mem_append_right _ List.mem_cons_self⟩

end MetricSet

/-! ## The text of some series -/

namespace MetricSet

variable {m : MetricSet} {standing : List Series} {text : String}

/-- **A text tells of some series of a set**, and of nothing else. -/
structure ToldBy (m : MetricSet) (standing : List Series) (text : String) : Prop where
  /-- The lines without the comments read back as the samples of these series,
  one line for each: series after series, and moments behind the other samples
  of a series. -/
  samples : (contentLines text).map readLine? =
    (standing.flatMap fun s => written (m.family s)).map some
  /-- Every line is of one cell, and about the command of that cell alone. -/
  ofCell : ∀ line ∈ contentLines text, ∃ s ∈ standing, ∃ command,
    ∃ sample ∈ m.samplesOf s command, readLine? line = some sample ∧
      ∀ other, sample.isAbout other = true ↔ other = command
  /-- The lines about a command are those of its own cells, as if there were no
  other command. -/
  about : ∀ command, ((contentLines text).filterMap readLine?).filter (Sample.isAbout command) =
    standing.flatMap fun s => written { m.family s with samples := m.samplesOf s command }
  /-- Each command is told of in every series in which it has a cell. -/
  told : ∀ s ∈ standing, ∀ command ∈ m.commands s, ∃ line ∈ contentLines text,
    ∃ sample ∈ m.samplesOf s command, readLine? line = some sample

/-- **The text of some series tells of these**, whatever their commands are
called. -/
theorem toldBy_of_text (hnodup : ∀ s, (m.commands s).Nodup)
    (htext : Exposition.text (standing.map m.family) = .ok text) : m.ToldBy standing text := by
  have hlegible : ∀ f ∈ standing.map m.family, LegibleFamily f := fun f hf => by
    obtain ⟨s, -, rfl⟩ := List.mem_map.1 hf
    exact m.legibleFamily s
  have hread := readLine?_contentLines htext hlegible
  rw [List.flatMap_map] at hread
  refine ⟨hread, fun line hline => ?_, fun command => ?_, fun s hstands command hcommand => ?_⟩
  · have hmem : readLine? line ∈ (standing.flatMap fun s => written (m.family s)).map some :=
      hread ▸ List.mem_map_of_mem hline
    obtain ⟨sample, hsample, heq⟩ := List.mem_map.1 hmem
    obtain ⟨s, hstands, hsample⟩ := List.mem_flatMap.1 hsample
    have hin : sample ∈ m.samples s := mem_written_iff.1 hsample
    obtain ⟨command, -, hof⟩ := exists_isOfCell sample hin
    refine ⟨s, hstands, command, sample, ?_, heq.symm, fun other => hof.isAbout_iff⟩
    rw [← filter_samples (hnodup s) command]
    exact List.mem_filter.2 ⟨hin, hof.isAbout_iff.2 rfl⟩
  · have hall : (contentLines text).filterMap readLine? =
        standing.flatMap fun s => written (m.family s) := by
      have hfound := congrArg (List.filterMap fun found : Option Sample => found) hread
      simpa only [List.filterMap_map, Function.comp_def, List.filterMap_some] using hfound
    have hfamily : ∀ s, (m.family s).samples.filter (Sample.isAbout command) =
        m.samplesOf s command := fun s => filter_samples (hnodup s) command
    rw [hall, List.filter_flatMap]
    simp only [filter_written, hfamily]
  · obtain ⟨sample, hsample⟩ := exists_mem_samplesOf hcommand
    have hin : sample ∈ (m.family s).samples := mem_samples_of_mem_samplesOf (hnodup s) hsample
    have hmem : some sample ∈ (contentLines text).map readLine? := by
      rw [hread]
      exact List.mem_map_of_mem (List.mem_flatMap.2 ⟨s, hstands, mem_written_iff.2 hin⟩)
    obtain ⟨line, hline, heq⟩ := List.mem_map.1 hmem
    exact ⟨line, hline, sample, hsample, heq⟩

/-- **There is such a text exactly if all their commands are of characters.** -/
theorem exists_text_iff (hnodup : ∀ s, (m.commands s).Nodup) :
    (∃ text, Exposition.text (standing.map m.family) = .ok text) ↔
      ∀ s ∈ standing, ∀ command ∈ m.commands s, command.isPlain = true := by
  rw [exists_text_eq_ok_iff]
  constructor
  · intro h s hstands command hcommand
    obtain ⟨sample, hsample⟩ := exists_mem_samplesOf hcommand
    exact (isOfCell_of_mem_samplesOf hsample).isPlain_labels_iff.1 <|
      h _ (List.mem_map_of_mem hstands) sample (mem_samples_of_mem_samplesOf (hnodup s) hsample)
  · intro h f hf sample hsample
    obtain ⟨s, hstands, rfl⟩ := List.mem_map.1 hf
    obtain ⟨command, hcommand, hcell⟩ := exists_isOfCell sample hsample
    exact hcell.isPlain_labels_iff.2 (h s hstands command hcommand)

/-- **No line tells of another series.** -/
theorem ToldBy.readLine?_ne (h : m.ToldBy standing text) {s : Series} (hgone : s ∉ standing)
    {command : Text} {sample : Sample} (hsample : sample ∈ m.samplesOf s command) :
    ∀ line ∈ contentLines text, readLine? line ≠ some sample := by
  intro line hline heq
  obtain ⟨s', hstands, command', sample', hsample', heq', -⟩ := h.ofCell line hline
  rw [heq, Option.some.injEq] at heq'
  subst heq'
  -- the sample is of a cell of either series, so there is but one
  obtain rfl := (isOfCell_of_mem_samplesOf hsample).series_eq (isOfCell_of_mem_samplesOf hsample')
  exact hgone hstands

end MetricSet

namespace Host

variable {acts : List Act} {id : SetId} {m : MetricSet}

/-- No series of a set that is reached has two cells for a command. -/
theorem nodup_commands_run (hset : (initial.run acts).set? id = some m) (s : Series) :
    (m.commands s).Nodup := by
  obtain ⟨new, b, hnew, rfl⟩ := exists_new_of_run hset
  exact hnew.unused.nodup_commands_play _ s

/-- Sources that are some series of a set are nothing else. -/
theorem alone_of_sources {sources : List Source} {standing : List Series}
    (h : sources = standing.map (.series id)) : ∀ source ∈ sources, ∃ s, source = .series id s := by
  rintro source hsource
  rw [h] at hsource
  obtain ⟨s, -, rfl⟩ := List.mem_map.1 hsource
  exact ⟨s, rfl⟩

/-- **A registry that holds nothing but series of one set** exports these in
the order of their definition. -/
theorem metricsText_of_alone (hset : (initial.run acts).set? id = some m)
    (halone : ∀ source ∈ ((initial.run acts).registry m.registry).sources,
      ∃ s, source = .series id s) :
    (initial.run acts).metricsText m.registry =
      Exposition.text ((((initial.run acts).registry m.registry).standing id).map m.family) := by
  have hfamily : ∀ s, (initial.run acts).family? (.series id s) = some (m.family s) := fun s => by
    rw [family?, hset, Option.map_some]
  rw [metricsText, families, (inOrder_run acts m.registry).eq_standing halone, List.filterMap_map]
  simp only [Function.comp_def, hfamily, List.filterMap_eq_map']

/-- **The metrics text is faithful**, whatever commands are called. Take any run
that leaves nothing but series of one set in its registry. These stand there in
the order of their definition, and they are all eleven if none was taken out.
If their commands are of characters there is a text; and a text tells of these
series and of nothing else, its lines being their samples, those about a
command as if there were no other command. Every command that was put to use
has a cell in every series. -/
theorem text_faithful (hset : (initial.run acts).set? id = some m)
    (halone : ∀ source ∈ ((initial.run acts).registry m.registry).sources,
      ∃ s, source = .series id s) :
    ∃ standing, (∀ s, s ∈ standing ↔
        .series id s ∈ ((initial.run acts).registry m.registry).sources) ∧
      standing.Sublist Series.all ∧
      ((∀ s, .series id s ∈ ((initial.run acts).registry m.registry).sources) →
        standing = Series.all) ∧
      ((∀ s ∈ standing, ∀ command ∈ m.commands s, command.isPlain = true) →
        ∃ text, (initial.run acts).metricsText m.registry = .ok text) ∧
      (∀ text, (initial.run acts).metricsText m.registry = .ok text → m.ToldBy standing text) ∧
      (∀ s, (written (m.family s)).Perm (m.samples s)) ∧
      ∀ command ∈ SetOperation.names (logOf id initial acts), ∀ s, command ∈ m.commands s := by
  have hnodup := nodup_commands_run hset
  rw [metricsText_of_alone hset halone]
  exact ⟨((initial.run acts).registry m.registry).standing id,
    fun s => Registry.mem_standing_iff, List.filter_sublist, Registry.standing_eq_all_iff.2,
    (MetricSet.exists_text_iff hnodup).2, fun text => MetricSet.toldBy_of_text hnodup,
    fun s => written_perm _, fun command hcommand s => mem_commands_run hset hcommand s⟩

/-- A name that ends its own line and begins one of another command is told
of in every series, next to that other command. -/
theorem text_faithful_forged :
    ∃ acts m text, (initial.run acts).set? ⟨0⟩ = some m ∧
      (initial.run acts).metricsText m.registry = .ok text ∧ ∀ s,
      ∃ line ∈ contentLines text, ∃ sample ∈
        m.samplesOf s "ping\"\x7d 0.0\nhystrix_go_attempts_total\x7bcommand=\"pong\\",
        readLine? line = some sample := by
  let forged : Text := "ping\"\x7d 0.0\nhystrix_go_attempts_total\x7bcommand=\"pong\\"
  let acts : List Act := [.construct .default none none, .ensureCommand ⟨0⟩ (.text "pong"),
    .newRecorder .direct ⟨0⟩ (.text forged),
    .call (.recorder ⟨forged, ⟨0⟩⟩) "record_attempt" []]
  have hrun : ((initial.run acts).set? ⟨0⟩).map (fun m =>
        (m.registry, Series.all.all fun s => (m.commands s).all Text.isPlain)) =
          some (.default, true) ∧
      ((initial.run acts).registry .default).sources = Series.all.map (.series ⟨0⟩) ∧
      forged ∈ SetOperation.names (logOf ⟨0⟩ initial acts) := by decide +kernel
  obtain ⟨hsome, hsources, hused⟩ := hrun
  obtain ⟨m, hset, hstate⟩ := Option.map_eq_some_iff.1 hsome
  obtain ⟨hplace, hplain⟩ := Prod.mk.inj hstate
  rw [← hplace] at hsources
  have halone := alone_of_sources hsources
  obtain ⟨standing, hstanding, -, -, hexists, htold, -, hcells⟩ := text_faithful hset halone
  obtain ⟨text, htext⟩ := hexists fun s _ =>
    List.all_eq_true.1 (List.all_eq_true.1 hplain s (Series.mem_all s))
  refine ⟨acts, m, text, hset, htext, fun s =>
    (htold text htext).told s ((hstanding s).2 ?_) forged (hcells forged hused s)⟩
  rw [hsources]
  exact List.mem_map_of_mem (Series.mem_all s)

/-! ## What keeps a text from telling of all -/

/-- There is a text, and it tells of all series of each set that is registered
where nothing else is. -/
def TellsAll (acts : List Act) : Prop :=
  ∀ id m, (initial.run acts).set? id = some m → m.registered = true →
    (∀ source ∈ ((initial.run acts).registry m.registry).sources, ∃ s, source = .series id s) →
    ∃ text, (initial.run acts).metricsText m.registry = .ok text ∧ m.ToldBy Series.all text

/-- What is done to a set of which a command is put to use, and then one series
is taken out of the registry behind its back. -/
def dropErrors : List Act :=
  [.construct .default none none, .ensureCommand ⟨0⟩ (.text "ping"),
    .drop .default (.series ⟨0⟩ (.events .error))]

/-- **A series that was dropped is missing from the text**, though its set
counts as registered and the series has a sample of the command. -/
theorem text_lacks_dropped : ¬ TellsAll dropErrors := by
  intro htells
  have hrun : ((initial.run dropErrors).set? ⟨0⟩).map (fun m => (m.registry, m.registered)) =
        some (.default, true) ∧
      ((initial.run dropErrors).registry .default).sources =
        (Series.all.filter (· ≠ .events .error)).map (.series ⟨0⟩) ∧
      .plain "ping" ∈ SetOperation.names (logOf ⟨0⟩ initial dropErrors) := by decide +kernel
  obtain ⟨hsome, hsources, hused⟩ := hrun
  obtain ⟨m, hset, hstate⟩ := Option.map_eq_some_iff.1 hsome
  obtain ⟨hplace, hregistered⟩ := Prod.mk.inj hstate
  rw [← hplace] at hsources
  have halone := alone_of_sources hsources
  have hgone : .events .error ∉ ((initial.run dropErrors).registry m.registry).standing ⟨0⟩ := by
    rw [Registry.mem_standing_iff, hsources]
    decide
  obtain ⟨text, htext, hall⟩ := htells ⟨0⟩ m hset hregistered halone
  obtain ⟨line, hline, sample, hsample, heq⟩ := hall.told (.events .error) (Series.mem_all _) "ping"
    (mem_commands_run hset hused (.events .error))
  rw [metricsText_of_alone hset halone] at htext
  have htold := MetricSet.toldBy_of_text (nodup_commands_run hset) htext
  exact htold.readLine?_ne hgone hsample line hline heq

/-- A name that is accepted and has a surrogate in it. -/
def brokenName : Text := .broken "ping " ⟨0⟩ ""

/-- What is done to a set of which a recorder is made for a command with that
name. -/
def recordBroken : List Act :=
  [.construct .default none none, .newRecorder .newRecorder ⟨0⟩ (.text brokenName)]

/-- **A name with a surrogate keeps the text from being told**, though the set
is registered with all its series and has accepted the name. -/
theorem no_text_of_surrogate : ¬ TellsAll recordBroken := by
  intro htells
  have hrun : ((initial.run recordBroken).set? ⟨0⟩).map (fun m => (m.registry, m.registered)) =
        some (.default, true) ∧
      ((initial.run recordBroken).registry .default).sources = Series.all.map (.series ⟨0⟩) ∧
      brokenName ∈ SetOperation.names (logOf ⟨0⟩ initial recordBroken) := by decide +kernel
  obtain ⟨hsome, hsources, hused⟩ := hrun
  obtain ⟨m, hset, hstate⟩ := Option.map_eq_some_iff.1 hsome
  obtain ⟨hplace, hregistered⟩ := Prod.mk.inj hstate
  rw [← hplace] at hsources
  have halone := alone_of_sources hsources
  have hstands : .events .error ∈
      ((initial.run recordBroken).registry m.registry).standing ⟨0⟩ := by
    rw [Registry.mem_standing_iff, hsources]
    decide
  obtain ⟨text, htext, -⟩ := htells ⟨0⟩ m hset hregistered halone
  rw [metricsText_of_alone hset halone] at htext
  have hplain := (MetricSet.exists_text_iff (nodup_commands_run hset)).1 ⟨text, htext⟩
    (.events .error) hstands brokenName (mem_commands_run hset hused (.events .error))
  cases hplain

/-- **So a text may miss a series, and there may be none.** -/
theorem not_tellsAll : ¬ TellsAll dropErrors ∧ ¬ TellsAll recordBroken :=
  ⟨text_lacks_dropped, no_text_of_surrogate⟩

end Host

end CommandMetrics
