import CommandMetrics.Family
/-!
# Exposition — the metrics text

Each family is written as a comment with its help text, one with its shape
and a line for each sample. The moments when cells were made follow as a
family of their own, since the plain format knows them as gauges only.
Help texts and label values are escaped, so that one sample is one line,
and names are written in the few characters that the format allows. The text
is handed out as bytes, so it must be of characters only.
-/

namespace CommandMetrics.Exposition

/-- A line of the text. -/
inductive Line where
  | help (name words : String)
  | shape (name kind : String)
  | sample (s : Sample)

/-- Whether a name may begin with a character: letters, the underscore and
the colon. -/
def isNameStart (c : Char) : Bool := c.isAlpha || c = '_' || c = ':'

/-- Whether a name may go on with a character: the same, and digits. -/
def isNamePart (c : Char) : Bool := isNameStart c || c.isDigit

/-- Whether a name is of allowed characters. An end of line may stand behind
them. -/
def isPlainName (name : List Char) : Bool :=
  match if name.getLast? = some '\n' then name.dropLast else name with
  | [] => false
  | first :: rest => isNameStart first && rest.all isNamePart

/-- One character of a name; an underscore stands in for any that is not
allowed. -/
def nameChar (isAllowed : Char → Bool) (c : Char) : Char := if isAllowed c then c else '_'

/-- **A name as it is written**: as it is where its characters are allowed,
else with an underscore for each that is not. -/
def writtenName (name : String) : String :=
  match name.toList with
  | [] => ""
  | first :: rest =>
    if isPlainName (first :: rest) then name
    else String.ofList (nameChar isNameStart first :: rest.map (nameChar isNamePart))

/-- Escapes a help text: backslashes and ends of lines. -/
def escapeHelp : List Char → List Char
  | [] => []
  | c :: rest =>
    if c = '\\' then '\\' :: '\\' :: escapeHelp rest
    else if c = '\n' then '\\' :: 'n' :: escapeHelp rest
    else c :: escapeHelp rest

/-- Escapes the value of a label: as a help text, and quotes as well. -/
def escapeLabel : List Char → List Char
  | [] => []
  | c :: rest =>
    if c = '\\' then '\\' :: '\\' :: escapeLabel rest
    else if c = '\n' then '\\' :: 'n' :: escapeLabel rest
    else if c = '"' then '\\' :: '"' :: escapeLabel rest
    else c :: escapeLabel rest

/-- One label with its value in quotes. -/
def label (name : String) (value : Text) : Text :=
  .plain (name ++ "=\"") ++ value.mapPlain escapeLabel ++ .plain "\""

/-- Labels with commas between them. -/
def listed : List (String × Text) → Text
  | [] => ""
  | [(name, value)] => label name value
  | (name, value) :: rest => label name value ++ .plain "," ++ listed rest

theorem listed_cons_cons (first second : String × Text) (rest : List (String × Text)) :
    listed (first :: second :: rest) =
      label first.1 first.2 ++ .plain "," ++ listed (second :: rest) := by
  rw [listed]
  nofun

/-- The labels of a sample in braces, by name; without labels there are no
braces. -/
def labels (all : List (String × Text)) : Text :=
  if all.isEmpty then ""
  else
    let sorted := all.mergeSort fun a b => decide (a.1 ≤ b.1)
    .plain "\x7b" ++ listed sorted ++ .plain "\x7d"

/-- What is written for the moment when a cell was made. -/
def creationText : String := "<created>"

/-- The text of a reading. -/
def reading : Reading → String
  | .number x => Layout.metrics.write x
  | .creation => creationText

/-- A sample without its reading. -/
def subject (s : Sample) : Text := .plain (writtenName s.name) ++ labels s.labels

/-- The text of a line. -/
def Line.text : Line → Text
  | help name words =>
    "# HELP " ++ writtenName name ++ " " ++ String.ofList (escapeHelp words.toList)
  | shape name kind => "# TYPE " ++ writtenName name ++ " " ++ kind
  | sample s => subject s ++ .plain (" " ++ reading s.reading)

/-- The suffix of the names under which moments are exported. -/
def createdSuffix : String := "_created"

/-- The name in the comments of a family: that of a counter has the suffix
of its total. -/
def headName (f : Family) : String :=
  match f.kind with
  | .counter => f.name ++ "_total"
  | _ => f.name

/-- **The lines of a family.** -/
def familyLines (f : Family) : List Line :=
  let created := f.name ++ createdSuffix
  let (moments, plain) := f.samples.partition (·.name == created)
  [.help (headName f) f.help, .shape (headName f) f.kind.name] ++ plain.map .sample
    ++ (if moments.isEmpty then []
      else [.help created f.help, .shape created "gauge"] ++ moments.map .sample)

/-- The lines of a text. -/
def lines (families : List Family) : List Line := families.flatMap familyLines

/-- All lines, each of them ended. -/
def page (families : List Family) : Text :=
  Text.join ((lines families).map fun line => line.text ++ .plain "\n")

/-- **The metrics text**, which is encoded: the value of a label that has a
surrogate keeps the whole of it from being told. -/
def text (families : List Family) : Except Fault String :=
  match (page families).encode? with
  | some characters => .ok characters
  | none => .error .unencodable

end CommandMetrics.Exposition
