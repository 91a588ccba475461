import CommandMetrics.Exposition
import CommandMetrics.Host
/-!
# Export — what a registry shows to the outside

Families come in the order of their registration, and their samples
command by command. The series of a metric set can be read also after the
set has left its registry.
-/

namespace CommandMetrics

mutual

/-- The kind of what keeps a value from being a key: lists and dictionaries
are none, on their own or inside a tuple. -/
def Value.keyless? : Value → Option String
  | .list items => some (Value.list items).kind
  | .dictionary entries => some (Value.dictionary entries).kind
  | .tuple items => Value.keylessAmong? items
  | _ => none

/-- The same for the items of a tuple, of which the first counts. -/
def Value.keylessAmong? : List Value → Option String
  | [] => none
  | item :: rest => item.keyless?.or (Value.keylessAmong? rest)

end

/-- **The series of a name**, as a metric set looks it up. -/
def Series.find (name : Value) : Except Fault Series :=
  match name with
  | .text (.plain s) =>
    match Series.ofName? s with
    | some found => .ok found
    | none => .error (.noSuchSeries name.shown)
  | _ =>
    match name.keyless? with
    | some kind => .error (.notAKey kind)
    | none => .error (.noSuchSeries name.shown)

namespace Host

/-- The family of a source. -/
def family? (h : Host) : Source → Option Family
  | .series id s => (h.set? id).map (·.family s)
  | .foreign id => (h.foreign[id.index]?).map Foreign.family

/-- **The families of a registry.** -/
def families (h : Host) (id : RegistryId) : List Family :=
  (h.registry id).sources.filterMap h.family?

/-- All samples of a registry. -/
def samples (h : Host) (id : RegistryId) : List Sample :=
  (h.families id).flatMap Family.samples

/-- **The metrics text of a registry.** -/
def metricsText (h : Host) (id : RegistryId) : Except Fault String :=
  Exposition.text (h.families id)

/-- Whether two lists of labels tell the same, in whatever order. -/
def sameLabels (a b : List (String × Text)) : Bool :=
  a.length == b.length && a.all fun (name, value) => b.lookup name == some value

/-- **The reading of a sample** by its name and all of its labels. -/
def reading? (h : Host) (id : RegistryId) (name : String) (labels : List (String × Text)) :
    Option Reading :=
  ((h.samples id).find? fun s => s.name == name && sameLabels s.labels labels).map Sample.reading

end Host

end CommandMetrics
