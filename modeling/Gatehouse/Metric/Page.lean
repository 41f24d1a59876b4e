import Gatehouse.Decimal.Natural

/-
  Pages of metrics.

  A family has a kind and samples.  A page lists, in the
  order of the characters, one line for the kind of each
  family that has samples and one line for each sample.

  Key definitions include:
    * `Metric.Kind`
    * `Metric.escape`
    * `Metric.Sample`
    * `Metric.Family`
    * `Metric.page`
-/

namespace Gatehouse

namespace Metric

/- How the values of a family change. -/
inductive Kind where
  | counter
  | gauge
  | histogram
  deriving DecidableEq, Repr

/- The word for a kind. -/
def Kind.word :
    Kind → String
  | .counter => "counter"
  | .gauge => "gauge"
  | .histogram => "histogram"

/- A value with the labels that it stands under. -/
structure Sample where
  name : String
  labels : List (String × String)
  value : String
  deriving DecidableEq, Repr

/- Samples of one kind. -/
structure Family where
  name : String
  kind : Kind
  samples : List Sample
  deriving DecidableEq, Repr

------------------------------------------------------------
-- Lines
------------------------------------------------------------

/-
  The written form of a label value.  A quote, a backslash
  and the end of a line are escaped.  A backslash is held
  back until the next character that is no end of a line:
  before a quote or another backslash it counts as the
  escape of that character.
-/
def escapeFrom :
    Bool → List Char → List Char
  | held, [] => if held then ['\\', '\\'] else []
  | held, c :: cs =>
      if c = '\n' then
        '\\' :: 'n' :: escapeFrom held cs
      else if c = '"' then
        '\\' :: '"' :: escapeFrom false cs
      else if c = '\\' then
        if held then
          '\\' :: '\\' :: escapeFrom false cs
        else
          escapeFrom true cs
      else if held then
        '\\' :: '\\' :: c :: escapeFrom false cs
      else
        c :: escapeFrom false cs

/- The written form of a label value. -/
def escape
    (s : String) : String :=
  String.ofList (escapeFrom false s.toList)

/- A label and its value. -/
def writeLabel
    (l : String × String) : String :=
  l.1 ++ "=\"" ++ escape l.2 ++ "\""

/- The line of a sample. -/
def Sample.line
    (s : Sample) : String :=
  if s.labels.isEmpty then
    s.name ++ " " ++ s.value
  else
    s.name ++ "\x7b" ++
      String.intercalate "," (s.labels.map writeLabel) ++
      "\x7d " ++ s.value

/- The line of a kind. -/
def Family.header
    (f : Family) : String :=
  "# TYPE " ++ f.name ++ " " ++ f.kind.word

/- The lines of a family; none without samples. -/
def Family.lines
    (f : Family) : List String :=
  if f.samples.isEmpty then
    []
  else
    f.header :: f.samples.map Sample.line

/- The lines of a page, in order. -/
def page
    (fs : List Family) : List String :=
  (fs.flatMap Family.lines).mergeSort
    (fun s t => decide (s ≤ t))

------------------------------------------------------------
-- Families of Counts
------------------------------------------------------------

/- A sample of a count, if anything was counted. -/
def countSamples
    (name : String)
    (labels : List (String × String))
    (n : Nat) : List Sample :=
  if n = 0 then [] else [⟨name, labels, Decimal.text n⟩]

/- A count. -/
def counter
    (name : String)
    (n : Nat) : Family :=
  ⟨name, .counter, countSamples name [] n⟩

/- Counts for each value of a label. -/
def counters
    (name label : String)
    (counts : List (String × Nat)) : Family :=
  ⟨name, .counter,
    counts.flatMap fun c =>
      countSamples name [(label, c.1)] c.2⟩

/- A level, if it was ever set. -/
def gauge
    (name : String)
    (level : Option Nat) : Family :=
  ⟨name, .gauge,
    level.toList.map fun n =>
      ⟨name, [], Decimal.text n⟩⟩

end Metric

end Gatehouse
