import CommandMetrics.Family
import CommandMetrics.Series
/-!
# Registries — who exports, and who owns which name

A registry holds sources in the order of their registration, each with
the names it claims, and beside them an index from names to sources.
Registering is refused when one of the names is taken, and then changes
nothing; taking a source out frees its names.
-/

namespace CommandMetrics

/-- A metric set, by its number. -/
structure SetId where
  index : Nat
  deriving DecidableEq, Hashable, Repr

/-- A metric of another program, by its number. -/
structure ForeignId where
  index : Nat
  deriving DecidableEq, Repr

/-- What can stand in a registry. -/
inductive Source where
  | series (set : SetId) (s : Series)
  | foreign (id : ForeignId)
  deriving DecidableEq, Repr

/-- The sources of an export and the owners of its names. -/
structure Registry where
  /-- Sources with the names they claim, in the order of registration. -/
  entries : List (Source × List String)
  /-- The owner of each name that is taken. -/
  owners : List (String × Source)
  deriving DecidableEq

namespace Registry

/-- A registry in which nothing stands. -/
def empty : Registry := ⟨[], []⟩

/-- The sources in the order of their registration. -/
def sources (r : Registry) : List Source := r.entries.map Prod.fst

/-- Whether a name is taken. -/
def isTaken (r : Registry) (name : String) : Bool := r.owners.any (·.1 == name)

/-- The names among some that are taken, in order. -/
def clashes (r : Registry) (names : List String) : List String :=
  (names.filter r.isTaken).mergeSort fun a b => decide (a ≤ b)

/-- **Puts a source at the end**, or tells which of its names are taken. -/
def register (r : Registry) (source : Source) (names : List String) :
    Except (List String) Registry :=
  match r.clashes names with
  | [] => .ok ⟨r.entries ++ [(source, names)], r.owners ++ names.map fun name => (name, source)⟩
  | taken => .error taken

/-- A registration that is accepted puts its source at the end. -/
theorem sources_register {r after : Registry} {source : Source} {names : List String}
    (h : r.register source names = .ok after) : after.sources = r.sources ++ [source] := by
  unfold register at h
  split at h
  · cases h
    simp [sources]
  · cases h

/-- **Takes a source out**, if it is there, and frees the names it claims. -/
def unregister (r : Registry) (source : Source) : Option Registry :=
  (r.entries.lookup source).map fun names =>
    ⟨r.entries.filter fun entry => entry.1 != source,
      r.owners.filter fun owner => !names.contains owner.1⟩

/-! ## Whole metric sets -/

/-- A clash while the series of a set were registered. -/
structure Clash where
  series : Series
  names : List String
  deriving DecidableEq, Repr

/-- The names that a series claims. -/
def claims (s : Series) : List String := s.kind.family.claims s.fullName

/-- Takes series of a set out again, one after the other. -/
def withdraw (set : SetId) (done : List Series) (r : Registry) : Registry :=
  done.foldl (fun r s => (r.unregister (.series set s)).getD r) r

/-- Registers series of a set one after the other. At the first clash those
that are `done` are taken out again, the last one first. -/
def enrol (set : SetId) (done : List Series) : List Series → Registry → Registry × Option Clash
  | [], r => (r, none)
  | s :: rest, r =>
    match r.register (.series set s) (claims s) with
    | .ok r => enrol set (s :: done) rest r
    | .error names => (withdraw set done r, some ⟨s, names⟩)

/-- **Registers all series of a set, or none.** -/
def enrolAll (r : Registry) (set : SetId) : Registry × Option Clash := enrol set [] Series.all r

/-- Takes series of a set out, up to the first that is not there. -/
def expel (set : SetId) : List Series → Registry → Registry × Option Series
  | [], r => (r, none)
  | s :: rest, r =>
    match r.unregister (.series set s) with
    | some r => expel set rest r
    | none => (r, some s)

/-- **Takes the series of a set out**, in the order of their definition. If
one of them is not there, the ones before are gone and the ones after stay. -/
def expelAll (r : Registry) (set : SetId) : Registry × Option Series := expel set Series.all r

end Registry

end CommandMetrics
