import CommandMetrics.Proofs.Fields
import CommandMetrics.Proofs.Numeral
import Mathlib.Data.List.TakeWhile
/-!
# Environment — what the values of two variables decide

Of a variable only the text between the blanks around it counts. The bounds
are what stands between the commas of such a text and is not blank
(`listed_eq`). They are read first, then the port, and what was read is
checked last, so loading an environment ends in one of three ways:
`config_of_unreadableBounds`, `config_of_unreadablePort` and
`config_of_readable`. Which way it is, the two texts tell
(`loadConfig_decides`). A text with a surrogate in it is read as any other; it
is never a number (`number?_of_half`, `integer_of_half`).
-/

namespace CommandMetrics

/-- Nothing is left of a text if all of it is ignored. -/
theorem trimmed_eq_nil_iff {α : Type} {ignored : α → Bool} {text : List α} :
    trimmed ignored text = [] ↔ ∀ c ∈ text, ignored c = true := by
  unfold trimmed
  rw [List.reverse_eq_nil_iff, List.dropWhile_eq_nil_iff]
  simp only [List.mem_reverse]
  constructor
  · intro h
    have hnil : text.dropWhile ignored = [] := by
      cases hrest : text.dropWhile ignored with
      | nil => rfl
      | cons c rest =>
        have hkept := List.head?_dropWhile_not ignored text
        rw [hrest] at h hkept
        exact absurd (h c List.mem_cons_self) (Bool.eq_false_iff.1 hkept)
    exact List.dropWhile_eq_nil_iff.1 hnil
  · intro h c hc
    exact h c (List.dropWhile_subset ignored hc)

/-! ## Surrogates are in no number -/

/-- What is not ignored is still there in a text that is trimmed. -/
theorem mem_trimmed {α : Type} {ignored : α → Bool} {text : List α} {x : α}
    (hx : ignored x = false) (hmem : x ∈ text) : x ∈ trimmed ignored text := by
  have hfront : ∀ text : List α, x ∈ text → x ∈ text.dropWhile ignored := fun text hmem => by
    rw [← List.takeWhile_append_dropWhile (p := ignored) (l := text), List.mem_append] at hmem
    exact hmem.resolve_left fun hin => Bool.false_ne_true (hx ▸ List.mem_takeWhile_imp hin)
  unfold trimmed
  rw [List.mem_reverse]
  exact hfront _ (List.mem_reverse.2 (hfront _ hmem))

namespace Numeral

variable {text : List Char}

/-- Only underscores are left out of a numeral. -/
theorem mem_of_joined? {c : Char} (hc : c ≠ '_') {afterDigit : Bool} {read : List Char}
    (h : joined? afterDigit text = some read) (hmem : c ∈ text) : c ∈ read := by
  induction text generalizing afterDigit read with
  | nil => cases hmem
  | cons first rest ih =>
    unfold joined? at h
    split at h
    · rename_i hscore
      split at h
      · exact ih h ((List.mem_cons.1 hmem).resolve_left (hscore ▸ hc))
      · cases h
    · obtain ⟨more, hmore, rfl⟩ := Option.map_eq_some_iff.1 h
      rcases List.mem_cons.1 hmem with rfl | hmem
      · exact List.mem_cons_self
      · exact List.mem_cons_of_mem _ (ih hmore hmem)

/-- The letter that stands for a surrogate is left in a setting. -/
theorem mem_setting (hmem : '?' ∈ text) : '?' ∈ setting text :=
  mem_trimmed rfl (List.mem_map.2 ⟨'?', hmem, rfl⟩)

/-- **No number is written with it**, -/
theorem number?_eq_none (hmem : '?' ∈ text) : number? text = none := by
  unfold number?
  cases hread : joined? false (setting text) with
  | none => rfl
  | some read =>
    have hmagnitude : '?' ∈ (sign read).2 :=
      (mem_sign_iff (by decide)).2 (mem_of_joined? (by decide) hread (mem_setting hmem))
    have hname : ∀ name : String, '?' ∉ name.toList →
        String.ofList ((sign read).2.map Char.toLower) ≠ name := by
      rintro name hnot rfl
      rw [String.toList_ofList] at hnot
      exact hnot (List.mem_map.2 ⟨'?', hmagnitude, rfl⟩)
    have hdecimal : decimal? (sign read).2 = none := by
      cases hdecimal : decimal? (sign read).2 with
      | none => rfl
      | some d => exact absurd hmagnitude (notMem_of_decimal? (by decide) hdecimal)
    simp [plain?, hname "inf" (by decide), hname "infinity" (by decide), hname "nan" (by decide),
      hdecimal]

/-- and no whole number. -/
theorem integer_ne_ok (hmem : '?' ∈ text) (n : Int) : integer text ≠ .ok n := by
  intro h
  unfold integer at h
  dsimp only at h
  split at h
  · cases h
  · cases h
  split at h
  · cases h
  split at h
  · cases h
  · rename_i hrest
    have hall := List.dropWhile_eq_nil_iff.1 (Decidable.not_not.1 hrest) '?'
      ((mem_sign_iff (by decide)).2 (mem_setting hmem))
    revert hall
    decide

end Numeral

namespace Environment

variable {environment : Environment} {text : List Point}

/-- **A text with a surrogate is no number** -/
theorem number?_of_half {s : Surrogate} (h : .half s ∈ text) : number? text = none :=
  Numeral.number?_eq_none (List.mem_map.2 ⟨.half s, h, rfl⟩)

/-- and no whole number. -/
theorem integer_of_half {s : Surrogate} (h : .half s ∈ text) (n : Int) : integer text ≠ .ok n :=
  Numeral.integer_ne_ok (List.mem_map.2 ⟨.half s, h, rfl⟩) n

/-! ## What is written -/

/-- Every variable is set to a text, as those of a process are. -/
def Textual (environment : Environment) : Prop :=
  ∀ entry ∈ environment, ∃ t, entry.2 = .text t

/-- The text of a variable without the blanks around it; one that is not set
is empty. -/
def stripped (environment : Environment) (name : String) : List Point :=
  match environment.lookup name with
  | some (.text t) => trimmed Point.isBlank t.points
  | _ => []

/-- The texts between commas that are not blank. -/
def entries (text : List Point) : List (List Point) :=
  (text.splitOn (.char ',')).filter fun entry => entry.any fun p => !p.isBlank

/-- The numbers among these. -/
def numbers (text : List Point) : List Number := (entries text).filterMap number?

/-- Some text between commas is no number. -/
def UnreadableBounds (text : List Point) : Prop :=
  ∃ entry ∈ entries text, number? entry = none

/-- A port is written, and it is no whole number. -/
def UnreadablePort (text : List Point) : Prop :=
  text ≠ [] ∧ (integer text).toOption = none

/-- Bounds are written, and they are not positive numbers that increase from a
finite one on. -/
def UnfitBounds (text : List Point) : Prop :=
  text ≠ [] ∧
    ¬ (Bounds.Sound (numbers text) ∧ ∃ first ∈ (numbers text).head?, first.isFinite = true)

/-- A port is written, and it is a whole number that no port has. -/
def UnfitPort (text : List Point) : Prop :=
  text ≠ [] ∧ ∃ port ∈ (integer text).toOption, ¬ (1 ≤ port ∧ port ≤ 65535)

instance : Decidable (UnreadableBounds text) := inferInstanceAs (Decidable (∃ _ ∈ _, _))

instance : Decidable (UnreadablePort text) := inferInstanceAs (Decidable (_ ∧ _))

instance : Decidable (UnfitBounds text) := inferInstanceAs (Decidable (_ ∧ ¬ (_ ∧ _)))

instance : Decidable (UnfitPort text) := inferInstanceAs (Decidable (_ ∧ _))

/-- How much is wrong with what was read. -/
def faults (bounds port : List Point) : Nat :=
  (if UnfitBounds bounds then 1 else 0) + if UnfitPort port then 1 else 0

/-! ## What is read -/

/-- **Of a variable its stripped text is read.** -/
theorem Textual.setting_eq (h : environment.Textual) (name : String) :
    environment.setting name = .ok (.text (environment.stripped name)) := by
  unfold setting stripped
  cases hlookup : environment.lookup name with
  | none => rfl
  | some value =>
    obtain ⟨before, rest, rfl, -⟩ := List.lookup_eq_some_iff.1 hlookup
    obtain ⟨t, rfl⟩ := h (name, value) (by simp)
    rfl

theorem Textual.settings_eq (h : environment.Textual) : environment.settings =
    .ok (.text (environment.stripped boundsVariable),
      .text (environment.stripped portVariable)) := by
  unfold settings
  rw [h.setting_eq, h.setting_eq]
  rfl

/-- The pieces of a text are what commas split it into. -/
theorem pieces_eq_splitOn (text : List Point) : pieces text = text.splitOn (.char ',') := by
  unfold List.splitOn
  induction text with
  | nil => rfl
  | cons p rest ih =>
    rw [pieces, ih, List.splitOnP_cons_eq_if_modifyHead]
    by_cases hp : p = .char ','
    · simp [hp]
    · simp only [hp, if_false, beq_iff_eq]
      cases hrest : rest.splitOnP fun x => x == .char ',' with
      | nil => exact absurd hrest (List.splitOnP_ne_nil _ rest)
      | cons first more => rfl

/-- **What is listed is read entry by entry.** -/
theorem listed_eq (text : List Point) : listed text = (entries text).mapM piece := by
  have hblank : ∀ entry ∈ text.splitOn (.char ','),
      (!(trimmed Point.isBlank entry).isEmpty) = entry.any fun p => !p.isBlank := by
    intro entry _
    rw [Bool.eq_iff_iff, Bool.not_eq_true', List.isEmpty_eq_false_iff, ne_eq, trimmed_eq_nil_iff]
    simp
  unfold listed entries
  rw [pieces_eq_splitOn, List.filter_congr hblank]

/-- Entries that are all numbers are read as these, -/
theorem listed_of_readable (h : ¬ UnreadableBounds text) : listed text = .ok (numbers text) := by
  have hall : ∀ texts : List (List Point), (∀ entry ∈ texts, number? entry ≠ none) →
      List.Forall₂ (fun entry x => piece entry = .ok x) texts
        (texts.filterMap number?) := by
    intro texts htexts
    induction texts with
    | nil => exact .nil
    | cons entry rest ih =>
      obtain ⟨x, hx⟩ := Option.ne_none_iff_exists'.1 (htexts entry List.mem_cons_self)
      have hrest := ih fun other hother => htexts other (List.mem_cons_of_mem _ hother)
      rw [List.filterMap_cons_some hx]
      exact .cons (by unfold piece; rw [hx]) hrest
  rw [listed_eq]
  exact mapM_eq_ok_iff.2 (hall _ fun entry hentry hnone => h ⟨entry, hentry, hnone⟩)

/-- and any other entry is a fault. -/
theorem exists_listed_eq_error (h : UnreadableBounds text) :
    ∃ fault, listed text = .error fault := by
  obtain ⟨entry, hentry, hnone⟩ := h
  cases hread : listed text with
  | error fault => exact ⟨fault, rfl⟩
  | ok read =>
    rw [listed_eq] at hread
    obtain ⟨x, hx⟩ := exists_of_mapM_eq_ok hread entry hentry
    unfold piece at hx
    rw [hnone] at hx
    cases hx

/-- The bounds of an environment all entries of which are numbers. -/
def boundsOf (text : List Point) : Option (List Number) :=
  if text = [] then none else some (numbers text)

/-- The port of an environment in which it is a whole number. -/
def portOf (text : List Point) : Option Int :=
  if text = [] then none else (integer text).toOption

theorem bounds?_text (hne : text ≠ []) : bounds? (.text text) =
    match listed text with
    | .ok bounds => .ok (some bounds)
    | .error fault =>
      .error (.badVariable boundsVariable "a comma separated list of numbers" fault) := by
  cases text with
  | nil => exact absurd rfl hne
  | cons c rest => rfl

theorem port?_text (hne : text ≠ []) : port? (.text text) =
    match whole (.text text) with
    | .ok port => .ok (some port)
    | .error fault => .error (.badVariable portVariable "an integer" fault) := by
  cases text with
  | nil => exact absurd rfl hne
  | cons c rest => rfl

theorem bounds?_of_readable (h : ¬ UnreadableBounds text) :
    bounds? (.text text) = .ok (boundsOf text) := by
  by_cases hnil : text = []
  · rw [hnil]
    rfl
  · rw [bounds?_text hnil, listed_of_readable h, boundsOf, if_neg hnil]

theorem exists_bounds?_eq_error (h : UnreadableBounds text) : ∃ fault,
    bounds? (.text text) =
      .error (.badVariable boundsVariable "a comma separated list of numbers" fault) := by
  obtain ⟨fault, hfault⟩ := exists_listed_eq_error h
  have hne : text ≠ [] := by
    rintro rfl
    cases hfault
  exact ⟨fault, by rw [bounds?_text hne, hfault]⟩

theorem port?_of_readable (h : ¬ UnreadablePort text) : port? (.text text) = .ok (portOf text) := by
  by_cases hnil : text = []
  · rw [hnil]
    rfl
  · rw [port?_text hnil, portOf, if_neg hnil, whole]
    cases hread : integer text with
    | ok port => rfl
    | error error => exact absurd ⟨hnil, by rw [hread]; rfl⟩ h

theorem exists_port?_eq_error (h : UnreadablePort text) : ∃ fault,
    port? (.text text) = .error (.badVariable portVariable "an integer" fault) := by
  obtain ⟨hne, hnone⟩ := h
  rw [port?_text hne, whole]
  cases hread : integer text with
  | ok port =>
    rw [hread] at hnone
    cases hnone
  | error error => exact ⟨_, rfl⟩

/-! ## What is checked -/

/-- Bounds that were written have an issue if they are unfit. -/
theorem length_boundsIssues (text : List Point) :
    (Config.boundsIssues (boundsOf text)).length = if UnfitBounds text then 1 else 0 := by
  by_cases hnil : text = []
  · have hfit : ¬ UnfitBounds text := fun h => h.1 hnil
    rw [if_neg hfit, boundsOf, if_pos hnil]
    rfl
  · rw [boundsOf, if_neg hnil]
    by_cases hacceptable : Bounds.Acceptable (numbers text)
    · have hfit : ¬ UnfitBounds text := fun h => h.2 (Bounds.acceptable_iff_head.1 hacceptable)
      rw [if_neg hfit, Config.boundsIssues_eq_nil_iff.2 hacceptable]
      rfl
    · have hunfit : UnfitBounds text :=
        ⟨hnil, fun h => hacceptable (Bounds.acceptable_iff_head.2 h)⟩
      rw [if_pos hunfit, Config.length_boundsIssues hacceptable]

/-- So has a port. -/
theorem length_portIssues (text : List Point) :
    (Config.portIssues (portOf text)).length = if UnfitPort text then 1 else 0 := by
  by_cases hunfit : UnfitPort text
  · rw [if_pos hunfit]
    obtain ⟨hne, port, hport, hrange⟩ := hunfit
    have hread : (integer text).toOption = some port := hport
    rw [portOf, if_neg hne, hread, Config.length_portIssues hrange]
  · rw [if_neg hunfit, portOf]
    by_cases hnil : text = []
    · rw [if_pos hnil]
      rfl
    · rw [if_neg hnil]
      cases hread : (integer text).toOption with
      | none => rfl
      | some port =>
        have hrange : 1 ≤ port ∧ port ≤ 65535 :=
          Decidable.not_not.1 fun hnot => hunfit ⟨hnil, port, hread, hnot⟩
        rw [Config.portIssues_eq_nil_iff.2 hrange]
        rfl

/-- **As many issues are told as there are faults.** -/
theorem length_issues (bounds port : List Point) :
    (Config.issues ⟨boundsOf bounds, portOf port⟩).length = faults bounds port := by
  rw [Config.issues, List.length_append, length_boundsIssues, length_portIssues, faults]

/-! ## The three ways -/

section Ways

variable (htextual : environment.Textual)

include htextual

/-- Bounds that cannot be read are told whatever the port is. -/
theorem config_of_unreadableBounds
    (hbounds : UnreadableBounds (environment.stripped boundsVariable)) : ∃ fault,
    environment.config =
      .error (.badVariable boundsVariable "a comma separated list of numbers" fault) := by
  obtain ⟨fault, hfault⟩ := exists_bounds?_eq_error hbounds
  refine ⟨fault, ?_⟩
  unfold config
  rw [htextual.settings_eq]
  dsimp only
  rw [hfault]
  rfl

/-- A port that cannot be read is told before anything is checked. -/
theorem config_of_unreadablePort
    (hbounds : ¬ UnreadableBounds (environment.stripped boundsVariable))
    (hport : UnreadablePort (environment.stripped portVariable)) : ∃ fault,
    environment.config = .error (.badVariable portVariable "an integer" fault) := by
  obtain ⟨fault, hfault⟩ := exists_port?_eq_error hport
  refine ⟨fault, ?_⟩
  unfold config
  rw [htextual.settings_eq]
  dsimp only
  rw [bounds?_of_readable hbounds, hfault]
  rfl

/-- **What can be read is checked**, and all its issues are told. -/
theorem config_of_readable
    (hbounds : ¬ UnreadableBounds (environment.stripped boundsVariable))
    (hport : ¬ UnreadablePort (environment.stripped portVariable)) {config : Config}
    (hconfig : config = ⟨boundsOf (environment.stripped boundsVariable),
      portOf (environment.stripped portVariable)⟩) :
    environment.config =
      if config.issues = [] then .ok config
      else .error (.badEnvironment ⟨Config.model, config.issues⟩) := by
  have hread : environment.config =
      (Config.ofFields config.toFields).mapError .badEnvironment := by
    unfold Environment.config
    rw [htextual.settings_eq]
    dsimp only
    rw [bounds?_of_readable hbounds, port?_of_readable hport]
    simp only [bind, Except.bind, ← hconfig]
    cases Config.ofFields config.toFields <;> rfl
  rw [hread, Config.ofFields_toFields]
  by_cases hnone : config.issues = []
  · rw [if_pos hnone, if_pos hnone]
    rfl
  · rw [if_neg hnone, if_neg hnone]
    rfl

end Ways

/-! ## The decision -/

/-- A variable is blamed for a failure, or none is. -/
def Blames (name : Option String) (result : Except Failure Config) : Prop :=
  ∃ e, result = .error (.adapter e) ∧ e.details.lookup "variable" = name.map fun name => .text name

theorem blames_badVariable {name : Option String} {blamed expected : String} {fault : Fault} :
    Blames name (.error (.badVariable blamed expected fault)) ↔ name = some blamed := by
  constructor
  · rintro ⟨e, he, hname⟩
    cases he
    cases name with
    | none => cases hname
    | some name =>
      cases hname
      rfl
  · rintro rfl
    exact ⟨_, rfl, rfl⟩

theorem blames_badEnvironment {name : Option String} {rejection : Rejection} :
    Blames name (.error (.badEnvironment rejection)) ↔ name = none := by
  constructor
  · rintro ⟨e, he, hname⟩
    cases he
    cases name with
    | none => rfl
    | some name => cases hname
  · rintro rfl
    exact ⟨_, rfl, rfl⟩

theorem not_blames_ok {name : Option String} {config : Config} : ¬ Blames name (.ok config) :=
  fun ⟨_, he, _⟩ => nomatch he

/-- **What two texts decide.** -/
structure Decides (bounds port : List Point) (result : Except Failure Config) : Prop where
  /-- Every failure is one of the configuration, of this operation, and has a
  cause. -/
  failed : ∀ failure, result = .error failure → ∃ e, failure = .adapter e ∧
    e.kind = .configuration ∧ e.context.operation = some (.plain "from_env") ∧ e.cause.isSome = true
  boundsBlamed : Blames (some boundsVariable) result ↔ UnreadableBounds bounds
  portBlamed : Blames (some portVariable) result ↔
    ¬ UnreadableBounds bounds ∧ UnreadablePort port
  noneBlamed : Blames none result ↔
    ¬ UnreadableBounds bounds ∧ ¬ UnreadablePort port ∧ 0 < faults bounds port
  /-- Where none is blamed, the number of faults is told. -/
  announced : ∀ e, result = .error (.adapter e) → e.details.lookup "variable" = none →
    e.message = s!"Invalid metrics configuration from environment: {faults bounds port} error(s)"
  accepted : ∀ config, result = .ok config ↔
    ¬ UnreadableBounds bounds ∧ ¬ UnreadablePort port ∧ faults bounds port = 0 ∧
      config = ⟨if bounds = [] then none else some (numbers bounds),
        if port = [] then none else (integer port).toOption⟩

section Outcomes

variable {bounds port : List Point}

theorem decides_of_unreadableBounds (hbounds : UnreadableBounds bounds) (expected : String)
    (fault : Fault) :
    Decides bounds port (.error (.badVariable boundsVariable expected fault)) where
  failed := by
    rintro failure ⟨⟩
    exact ⟨_, rfl, rfl, rfl, rfl⟩
  boundsBlamed := by simp [blames_badVariable, hbounds]
  portBlamed := by simp [blames_badVariable, hbounds, (by decide : portVariable ≠ boundsVariable)]
  noneBlamed := by simp [blames_badVariable, hbounds]
  announced := by
    rintro e ⟨⟩ hnone
    cases hnone
  accepted := by simp [hbounds]

theorem decides_of_unreadablePort (hbounds : ¬ UnreadableBounds bounds)
    (hport : UnreadablePort port) (expected : String) (fault : Fault) :
    Decides bounds port (.error (.badVariable portVariable expected fault)) where
  failed := by
    rintro failure ⟨⟩
    exact ⟨_, rfl, rfl, rfl, rfl⟩
  boundsBlamed := by
    simp [blames_badVariable, hbounds, (by decide : boundsVariable ≠ portVariable)]
  portBlamed := by simp [blames_badVariable, hbounds, hport]
  noneBlamed := by simp [blames_badVariable, hport]
  announced := by
    rintro e ⟨⟩ hnone
    cases hnone
  accepted := by simp [hport]

theorem decides_of_unfit (hbounds : ¬ UnreadableBounds bounds) (hport : ¬ UnreadablePort port)
    {rejection : Rejection} (hsome : rejection.issues ≠ [])
    (hlength : rejection.issues.length = faults bounds port) :
    Decides bounds port (.error (.badEnvironment rejection)) := by
  have hpositive : 0 < faults bounds port := by
    rw [← hlength]
    exact List.length_pos_iff.2 hsome
  exact {
    failed := by
      rintro failure ⟨⟩
      exact ⟨_, rfl, rfl, rfl, rfl⟩
    boundsBlamed := by simp [blames_badEnvironment, hbounds]
    portBlamed := by simp [blames_badEnvironment, hport]
    noneBlamed := by simp [blames_badEnvironment, hbounds, hport, hpositive]
    announced := by
      rintro e ⟨⟩ -
      rw [← hlength]
    accepted := by simp [Nat.ne_of_gt hpositive] }

theorem decides_of_fit (hbounds : ¬ UnreadableBounds bounds) (hport : ¬ UnreadablePort port)
    (hnone : faults bounds port = 0) :
    Decides bounds port (.ok ⟨boundsOf bounds, portOf port⟩) where
  failed := by rintro failure ⟨⟩
  boundsBlamed := by simp [not_blames_ok, hbounds]
  portBlamed := by simp [not_blames_ok, hport]
  noneBlamed := by simp [not_blames_ok, hnone]
  announced := by rintro e ⟨⟩
  accepted config := by
    simp only [Except.ok.injEq, hbounds, hport, hnone, not_false_eq_true, true_and]
    exact eq_comm

end Outcomes

/-- **The two texts of an environment decide what it comes to.** -/
theorem Textual.decides (htextual : environment.Textual) :
    Decides (environment.stripped boundsVariable) (environment.stripped portVariable)
      environment.config := by
  by_cases hbounds : UnreadableBounds (environment.stripped boundsVariable)
  · obtain ⟨fault, hconfig⟩ := config_of_unreadableBounds htextual hbounds
    rw [hconfig]
    exact decides_of_unreadableBounds hbounds _ fault
  by_cases hport : UnreadablePort (environment.stripped portVariable)
  · obtain ⟨fault, hconfig⟩ := config_of_unreadablePort htextual hbounds hport
    rw [hconfig]
    exact decides_of_unreadablePort hbounds hport _ fault
  have hlength := length_issues (environment.stripped boundsVariable)
    (environment.stripped portVariable)
  rw [config_of_readable htextual hbounds hport rfl]
  split
  · rename_i hnone
    rw [hnone] at hlength
    exact decides_of_fit hbounds hport hlength.symm
  · rename_i hsome
    exact decides_of_unfit hbounds hport hsome hlength

end Environment

namespace Host

open Environment

variable {environment : Environment}

/-- **An environment decides whether a configuration is loaded, and which.**
With variables that are texts, what comes of loading is decided by what
stands between the blanks around these texts. A configuration that is loaded
is logged once, below what informs, with the values it has; a failure leaves
the host as it was. -/
theorem loadConfig_decides (h : Host) (htextual : environment.Textual) :
    Decides (environment.stripped boundsVariable) (environment.stripped portVariable)
        (h.loadConfig environment).2 ∧
      (∀ config, (h.loadConfig environment).2 = .ok config →
        ∃ record, (h.loadConfig environment).1 = h.write record ∧ record.level = .debug ∧
          record.message = "Loaded metrics configuration from environment" ∧
          record.extra = config.toFields) ∧
      (∀ failure, (h.loadConfig environment).2 = .error failure →
        (h.loadConfig environment).1 = h) := by
  have hdecides := htextual.decides
  unfold loadConfig
  cases hconfig : environment.config with
  | ok config =>
    rw [hconfig] at hdecides
    refine ⟨hdecides, ?_, ?_⟩
    · rintro _ ⟨⟩
      exact ⟨_, rfl, rfl, rfl, rfl⟩
    · rintro failure ⟨⟩
  | error failure =>
    rw [hconfig] at hdecides
    refine ⟨hdecides, ?_, ?_⟩
    · rintro config ⟨⟩
    · intro _ _
      rfl

/-- A blank piece is skipped, and the infinite bound may be written; a lone
comma lists no bound, which is one fault, and a port beyond the last is
another. -/
theorem loadConfig_decides_pieces :
    (initial.loadConfig [(boundsVariable, .text " 0.5, ,inf ")]).2 =
        .ok ⟨some [Number.ofDecimal false ⟨5, -1⟩, .infinity false], none⟩ ∧
      ∃ e, (initial.loadConfig
          [(boundsVariable, .text ","), (portVariable, .text "70000")]).2 =
            .error (.adapter e) ∧
        e.message = "Invalid metrics configuration from environment: 2 error(s)" := by
  have hlisted : Environment.Textual [(boundsVariable, .text " 0.5, ,inf ")] := by simp [Textual]
  have hcomma :
      Environment.Textual [(boundsVariable, .text ","), (portVariable, .text "70000")] := by
    simp [Textual]
  constructor
  · have haccepted := (loadConfig_decides initial hlisted).1.accepted
    exact (haccepted _).2 ⟨by decide +kernel, by decide +kernel, by decide +kernel,
      by decide +kernel⟩
  · have hdecides := (loadConfig_decides initial hcomma).1
    obtain ⟨e, he, hnone⟩ := hdecides.noneBlamed.2
      ⟨by decide +kernel, by decide +kernel, by decide +kernel⟩
    have hfaults : faults
        (Environment.stripped [(boundsVariable, .text ","), (portVariable, .text "70000")]
          boundsVariable)
        (Environment.stripped [(boundsVariable, .text ","), (portVariable, .text "70000")]
          portVariable) = 2 := by decide +kernel
    have htold := hdecides.announced e he hnone
    rw [hfaults] at htold
    exact ⟨e, he, htold⟩

end Host

end CommandMetrics
