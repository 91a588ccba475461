import CommandMetrics.Proofs.Items
/-!
# Fields — a configuration and the fields it is built from

The two fields of a configuration are checked apart from each other, and a
rejection holds the issues of both (`ofFields_eq`). Items come to bounds if
they are read as numbers that are acceptable (`boundsField_tuple_eq_ok_iff`);
with numbers that are not there is one issue (`boundsIssues`). A whole number
is a port exactly if it lies between the two limits (`portIssues`). So a
configuration is built from its own fields again, or its issues are told
(`ofFields_toFields`).
-/

namespace CommandMetrics

/-- A list or a tuple of numbers. -/
def Value.Lists (value : Value) (bounds : List Number) : Prop :=
  value = .list (bounds.map .number) ∨ value = .tuple (bounds.map .number)

namespace Config

variable {config : Config} {bounds : List Number}

/-- **The two fields are checked apart.** Both have to be in order, and the
issues of both are told. -/
theorem ofFields_eq {fields : Fields}
    (hclosed : fields.closed ["duration_buckets", "metrics_port"] = .ok ()) :
    ofFields fields =
      match fields.optional "duration_buckets" none (Coercion.optional boundsField),
        fields.optional "metrics_port" none (Coercion.optional portField) with
      | .ok bounds, .ok port => .ok ⟨bounds, port⟩
      | bounds, port => .error ⟨model, bounds.issues ++ port.issues⟩ := by
  unfold ofFields
  rw [hclosed]
  cases fields.optional "duration_buckets" none (Coercion.optional boundsField) with
  | ok bounds =>
    cases fields.optional "metrics_port" none (Coercion.optional portField) <;>
      simp [Checked.map, Checked.ap, Checked.forModel, Checked.issues]
  | wrong found =>
    cases fields.optional "metrics_port" none (Coercion.optional portField) <;>
      simp [Checked.map, Checked.ap, Checked.forModel, Checked.issues]

/-- Of no fields nothing is configured. -/
theorem ofFields_nil : ofFields [] = .ok empty := by
  have hclosed : Fields.closed [] ["duration_buckets", "metrics_port"] = .ok () := by
    simp [Fields.closed]
  rw [ofFields_eq hclosed]
  rfl

/-- What is wrong with the bounds of a configuration. -/
def boundsIssues : Option (List Number) → List Issue
  | none => []
  | some bounds =>
    match Bounds.validate bounds with
    | .ok _ => []
    | .error error => [⟨.bounds error, [.field "duration_buckets"]⟩]

/-- What is wrong with the port of a configuration. -/
def portIssues : Option Int → List Issue
  | none => []
  | some port =>
    if port < 1 then [⟨.tooSmall 1, [.field "metrics_port"]⟩]
    else if 65535 < port then [⟨.tooLarge 65535, [.field "metrics_port"]⟩]
    else []

/-- All that is wrong with a configuration. -/
def issues (config : Config) : List Issue :=
  boundsIssues config.bounds ++ portIssues config.port

/-- Acceptable bounds are all that has no issue. -/
theorem boundsIssues_eq_nil_iff : boundsIssues (some bounds) = [] ↔ Bounds.Acceptable bounds := by
  unfold boundsIssues
  cases hvalid : Bounds.validate bounds with
  | ok accepted => simp [hvalid, (Bounds.validate_eq_ok_iff.1 hvalid).2]
  | error error =>
    have hnot : ¬ Bounds.Acceptable bounds := fun h =>
      nomatch hvalid.symm.trans (Bounds.validate_eq_ok_iff.2 ⟨rfl, h⟩)
    simp [hvalid, hnot]

/-- Of others there is one issue. -/
theorem length_boundsIssues (h : ¬ Bounds.Acceptable bounds) :
    (boundsIssues (some bounds)).length = 1 := by
  unfold boundsIssues
  cases hvalid : Bounds.validate bounds with
  | ok accepted => exact absurd (Bounds.validate_eq_ok_iff.1 hvalid).2 h
  | error error => simp [hvalid]

/-- A port between the limits is all that has no issue. -/
theorem portIssues_eq_nil_iff {port : Int} :
    portIssues (some port) = [] ↔ 1 ≤ port ∧ port ≤ 65535 := by
  unfold portIssues
  dsimp only
  by_cases hleast : port < 1
  · rw [if_pos hleast]
    constructor
    · intro h
      cases h
    · intro h
      omega
  rw [if_neg hleast]
  by_cases hmost : 65535 < port
  · rw [if_pos hmost]
    constructor
    · intro h
      cases h
    · intro h
      omega
  · rw [if_neg hmost]
    exact ⟨fun _ => by omega, fun _ => rfl⟩

/-- Of others there is one issue. -/
theorem length_portIssues {port : Int} (h : ¬ (1 ≤ port ∧ port ≤ 65535)) :
    (portIssues (some port)).length = 1 := by
  unfold portIssues
  dsimp only
  by_cases hleast : port < 1
  · rw [if_pos hleast]
    rfl
  · have hmost : 65535 < port := by omega
    rw [if_neg hleast, if_pos hmost]
    rfl

/-- A list or a tuple of numbers is looked at as bounds. -/
theorem optional_boundsField {given : Value} (hgiven : given.Lists bounds) :
    Coercion.optional boundsField given = (checkBounds bounds).map some := by
  have hread : ∀ items, items = bounds.map Value.number →
      (Checked.each Coercion.number 0 items).andThen checkBounds = checkBounds bounds := by
    rintro items rfl
    rw [Checked.each_number]
    rfl
  rcases hgiven with rfl | rfl
  · exact congrArg (Checked.map some) (hread _ rfl)
  · exact congrArg (Checked.map some) (hread _ rfl)

/-- The check of a list lets it through as it is, if it is acceptable. -/
theorem checkBounds_eq_ok_iff {accepted : List Number} :
    checkBounds bounds = .ok accepted ↔ accepted = bounds ∧ Bounds.Acceptable bounds := by
  rw [← Bounds.validate_eq_ok_iff]
  unfold checkBounds
  cases hvalid : Bounds.validate bounds with
  | ok taken => simp
  | error error => simp [Checked.problem]

/-- **Items come to bounds** if each of them is read as a number, and these
are acceptable. -/
theorem boundsField_tuple_eq_ok_iff {items : List Value} :
    boundsField (.tuple items) = .ok bounds ↔
      List.Forall₂ (fun item x => Coercion.number item = .ok x) items bounds ∧
        Bounds.Acceptable bounds := by
  unfold boundsField
  rw [Checked.andThen_eq_ok_iff]
  constructor
  · rintro ⟨numbers, hread, hcheck⟩
    obtain ⟨rfl, hacceptable⟩ := checkBounds_eq_ok_iff.1 hcheck
    exact ⟨Checked.each_eq_ok_iff.1 hread, hacceptable⟩
  · rintro ⟨hread, hacceptable⟩
    exact ⟨bounds, Checked.each_eq_ok_iff.2 hread, checkBounds_eq_ok_iff.2 ⟨rfl, hacceptable⟩⟩

/-- The field of bounds that are numbers. -/
theorem under_checkBounds (bounds : List Number) :
    ((checkBounds bounds).map some).under (.field "duration_buckets") =
      if boundsIssues (some bounds) = [] then .ok (some bounds)
      else .wrong (boundsIssues (some bounds)) := by
  unfold checkBounds boundsIssues
  cases hvalid : Bounds.validate bounds with
  | ok accepted =>
    obtain ⟨rfl, -⟩ := Bounds.validate_eq_ok_iff.1 hvalid
    simp [hvalid, Checked.map, Checked.under]
  | error error => simp [hvalid, Checked.map, Checked.problem, Checked.under]

/-- The field of a port that is a whole number. -/
theorem under_portField (port : Int) :
    (Coercion.optional portField (.integer port)).under (.field "metrics_port") =
      if portIssues (some port) = [] then .ok (some port)
      else .wrong (portIssues (some port)) := by
  have hread : Coercion.optional portField (.integer port) =
      ((if port < 1 then Checked.problem (.tooSmall 1)
        else if 65535 < port then .problem (.tooLarge 65535) else .ok port).map some) := rfl
  rw [hread]
  unfold portIssues
  by_cases hleast : port < 1
  · simp [hleast, Checked.map, Checked.problem, Checked.under]
  · by_cases hmost : 65535 < port
    · simp [hleast, hmost, Checked.map, Checked.problem, Checked.under]
    · simp [hleast, hmost, Checked.map, Checked.under]

/-- **A configuration of which the bounds alone are given.** -/
theorem ofFields_bounds (given : Value) : ofFields [("duration_buckets", given)] =
    match (Coercion.optional boundsField given).under (.field "duration_buckets") with
    | .ok bounds => .ok ⟨bounds, none⟩
    | .wrong issues => .error ⟨model, issues⟩ := by
  have hclosed : Fields.closed [("duration_buckets", given)] ["duration_buckets", "metrics_port"] =
      .ok () := by
    simp [Fields.closed]
  have hbounds : Fields.optional [("duration_buckets", given)] "duration_buckets" none
      (Coercion.optional boundsField) =
        (Coercion.optional boundsField given).under (.field "duration_buckets") := rfl
  have hport : Fields.optional [("duration_buckets", given)] "metrics_port" none
      (Coercion.optional portField) = .ok none := rfl
  rw [ofFields_eq hclosed, hbounds, hport]
  cases (Coercion.optional boundsField given).under (.field "duration_buckets") <;>
    simp [Checked.issues]

/-- So it is with numbers that are listed. -/
theorem ofFields_lists {given : Value} (hgiven : given.Lists bounds) :
    ofFields [("duration_buckets", given)] =
      if boundsIssues (some bounds) = [] then .ok ⟨some bounds, none⟩
      else .error ⟨model, boundsIssues (some bounds)⟩ := by
  rw [ofFields_bounds, optional_boundsField hgiven, under_checkBounds]
  by_cases hnone : boundsIssues (some bounds) = []
  · rw [if_pos hnone, if_pos hnone]
  · rw [if_neg hnone, if_neg hnone]

/-- **A configuration is built from its own fields**, or its issues are
told. -/
theorem ofFields_toFields (config : Config) : ofFields config.toFields =
    if config.issues = [] then .ok config else .error ⟨model, config.issues⟩ := by
  obtain ⟨bounds, port⟩ := config
  have hclosed : (toFields ⟨bounds, port⟩).closed ["duration_buckets", "metrics_port"] =
      .ok () := by
    simp [toFields, Fields.closed]
  have hbounds : (toFields ⟨bounds, port⟩).optional "duration_buckets" none
      (Coercion.optional boundsField) =
        if boundsIssues bounds = [] then .ok bounds else .wrong (boundsIssues bounds) := by
    cases bounds with
    | none => rfl
    | some bounds =>
      rw [← under_checkBounds, ← optional_boundsField (.inr rfl)]
      rfl
  have hport : (toFields ⟨bounds, port⟩).optional "metrics_port" none
      (Coercion.optional portField) =
        if portIssues port = [] then .ok port else .wrong (portIssues port) := by
    cases port with
    | none => rfl
    | some port =>
      rw [← under_portField]
      rfl
  rw [ofFields_eq hclosed, hbounds, hport, issues]
  dsimp only
  by_cases hb : boundsIssues bounds = []
  · by_cases hp : portIssues port = []
    · simp [hb, hp]
    · simp [hb, hp, Checked.issues]
  · by_cases hp : portIssues port = []
    · simp [hb, hp, Checked.issues]
    · simp [hb, hp, Checked.issues]

end Config

end CommandMetrics
